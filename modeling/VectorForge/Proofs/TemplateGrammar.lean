import VectorForge.Template.Render

/-! The template language as a grammar, stated without the scanner that reads it. At
every point of a template at most one token applies, so a template has exactly one
reading, and the filled-in text or the fault is read off from it. -/

namespace VectorForge.Proofs.TemplateGrammar
open Template

/-- The token that applies at a point, and the text behind it. -/
inductive Step : List Char → Token → List Char → Prop where
  | plain {char rest} (notOpening : char ≠ '{') (notClosing : char ≠ '}') :
      Step (char :: rest) (.literal char) rest
  | opening {rest} : Step ('{' :: '{' :: rest) (.literal '{') rest
  | closing {rest} : Step ('}' :: '}' :: rest) (.literal '}') rest
  | named {name rest} (nonempty : name ≠ []) (words : ∀ char ∈ name, isWord char = true) :
      Step ('{' :: (name ++ '}' :: rest)) (.placeholder (String.ofList name)) rest

/-- The points where a brace stands to which no token applies. -/
inductive Malformed : List Char → Prop where
  /-- A closing brace on its own. -/
  | stray {rest} (single : rest.head? ≠ some '}') : Malformed ('}' :: rest)
  /-- No closing brace follows. -/
  | unfinished {rest} (single : rest.head? ≠ some '{') (open_ : '}' ∉ rest) :
      Malformed ('{' :: rest)
  /-- The text up to the next closing brace is not a name. -/
  | misnamed {name rest} (single : name.head? ≠ some '{') (next : '}' ∉ name)
      (bad : name = [] ∨ ∃ char ∈ name, isWord char = false) :
      Malformed ('{' :: (name ++ '}' :: rest))

/-- Reading on from left to right, one applicable token after another. -/
inductive Scan : List Char → List Token → List Char → Prop where
  | here {chars} : Scan chars [] chars
  | step {chars token middle tokens rest} (first : Step chars token middle)
      (further : Scan middle tokens rest) : Scan chars (token :: tokens) rest

/-- Reading goes no further: the template ends or is malformed here. -/
def Ended (rest : List Char) : Prop := rest = [] ∨ Malformed rest

/-- A template read as far as it can be: its tokens, the text they take up and what is left. -/
structure Reading (template : String) (tokens : List Token) (consumed : String)
    (rest : List Char) : Prop where
  split : template = consumed ++ String.ofList rest
  scan : Scan template.toList tokens rest
  ended : Ended rest

/-- What the reserved names stand for. The component has one only where there is a component. -/
inductive Reserved (bindings : Bindings) : String → String → Prop where
  | vectorType : Reserved bindings "T" bindings.vectorType
  | maskType : Reserved bindings "BT" bindings.maskType
  | element : Reserved bindings "NT" bindings.element
  | component {component} (present : bindings.component = some component) :
      Reserved bindings "L" component.name
  | first : Reserved bindings "VA1" bindings.arguments.first
  | second : Reserved bindings "VA2" bindings.arguments.second
  | single : Reserved bindings "VA" bindings.arguments.single
  | scalar : Reserved bindings "NA" bindings.arguments.scalar
  | newline : Reserved bindings "NL" bindings.newline

/-- What a name stands for: the last override with that key, else its reserved value. -/
inductive Resolves (bindings : Bindings) (name value : String) : Prop where
  | override {before after} (bound : bindings.overrides = before ++ (name, value) :: after)
      (last : ∀ pair ∈ after, pair.1 ≠ name)
  | reserved (free : ∀ pair ∈ bindings.overrides, pair.1 ≠ name)
      (bound : Reserved bindings name value)

/-- The text that tokens amount to. Values stand in it as they are. -/
inductive Spells (bindings : Bindings) : List Token → String → Prop where
  | done : Spells bindings [] ""
  | literal {char tokens text} (further : Spells bindings tokens text) :
      Spells bindings (.literal char :: tokens) (String.singleton char ++ text)
  | placeholder {name value tokens text} (bound : Resolves bindings name value)
      (further : Spells bindings tokens text) :
      Spells bindings (.placeholder name :: tokens) (value ++ text)

/-- The fault of the leftmost token that offends. -/
inductive Offends (template : String) (bindings : Bindings) (tokens : List Token)
    (consumed : String) (rest : List Char) : Fault → Prop where
  | unresolved {before name after text} (place : tokens = before ++ .placeholder name :: after)
      (earlier : Spells bindings before text) (unbound : ∀ value, ¬ Resolves bindings name value) :
      Offends template bindings tokens consumed rest (.unresolvedPlaceholder name template)
  | malformed {text} (earlier : Spells bindings tokens text) (left : rest ≠ []) :
      Offends template bindings tokens consumed rest
        (.malformedTemplate template consumed.utf8ByteSize)

theorem isWord_brace {char : Char} (word : isWord char = true) : char ≠ '{' ∧ char ≠ '}' := by
  constructor <;> rintro rfl <;> exact absurd word (by decide)

theorem utf8Size_of_isWord {char : Char} (word : isWord char = true) : char.utf8Size = 1 := by
  have ranges : ((decide (char.val ≥ 'A'.val ∧ char.val ≤ 'Z'.val)
      || (char.val ≥ 'a'.val && char.val ≤ 'z'.val))
      || (char.val ≥ '0'.val && char.val ≤ '9'.val) || char == '_') = true := word
  simp only [Bool.or_eq_true, Bool.and_eq_true, decide_eq_true_eq, beq_iff_eq] at ranges
  have small : char.val ≤ 'z'.val := by
    obtain ((⟨_, upper⟩ | ⟨_, lower⟩) | ⟨_, digit⟩) | rfl := ranges
    · exact UInt32.le_trans upper (by decide)
    · exact lower
    · exact UInt32.le_trans digit (by decide)
    · decide
  have ascii : char.val ≤ 0x7F := UInt32.le_trans small (by decide)
  simp only [Char.utf8Size]
  rw [if_pos (by simpa using ascii)]

theorem cut_unique {first second left right : List Char} (firstFree : '}' ∉ first)
    (secondFree : '}' ∉ second) (same : first ++ '}' :: left = second ++ '}' :: right) :
    first = second ∧ left = right := by
  induction first generalizing second with
  | nil =>
    cases second with
    | nil => simpa using same
    | cons char second =>
      obtain ⟨rfl, _⟩ := List.cons.inj same
      exact absurd List.mem_cons_self secondFree
  | cons char first ih =>
    cases second with
    | nil =>
      obtain ⟨rfl, _⟩ := List.cons.inj same
      exact absurd List.mem_cons_self firstFree
    | cons other second =>
      simp only [List.cons_append, List.cons.injEq] at same
      obtain ⟨rfl, tail⟩ := same
      simp only [List.mem_cons, not_or] at firstFree secondFree
      obtain ⟨rfl, rest⟩ := ih firstFree.2 secondFree.2 tail
      exact ⟨rfl, rest⟩

private theorem name_free {name : List Char} (words : ∀ char ∈ name, isWord char = true) :
    '}' ∉ name :=
  fun member => (isWord_brace (words _ member)).2 rfl

private theorem name_single {name rest : List Char} (nonempty : name ≠ [])
    (words : ∀ char ∈ name, isWord char = true) : (name ++ rest).head? ≠ some '{' := by
  cases name with
  | nil => exact absurd rfl nonempty
  | cons char name => simpa using (isWord_brace (words char (by simp))).1

theorem Step.unique {chars token rest other left} (first : Step chars token rest)
    (second : Step chars other left) : token = other ∧ rest = left := by
  cases first with
  | plain notOpening notClosing => cases second <;> simp_all
  | opening =>
    generalize same : '{' :: '{' :: rest = chars at second
    cases second with
    | plain notOpening _ => exact absurd (by simpa using (List.cons.inj same).1.symm) notOpening
    | opening => simpa using same
    | closing => simp at same
    | named nonempty words =>
      have head := congrArg List.head? (List.cons.inj same).2
      exact absurd head.symm (name_single nonempty words)
  | closing =>
    generalize same : '}' :: '}' :: rest = chars at second
    cases second with
    | plain _ notClosing => exact absurd (by simpa using (List.cons.inj same).1.symm) notClosing
    | opening => simp at same
    | closing => simpa using same
    | named => simp at same
  | @named name rest nonempty words =>
    generalize same : '{' :: (name ++ '}' :: rest) = chars at second
    cases second with
    | plain notOpening _ => exact absurd (by simpa using (List.cons.inj same).1.symm) notOpening
    | opening =>
      have head := congrArg List.head? (List.cons.inj same).2
      exact absurd head (name_single nonempty words)
    | closing => simp at same
    | named _ otherWords =>
      obtain ⟨rfl, rfl⟩ := cut_unique (name_free words) (name_free otherWords) (List.cons.inj same).2
      exact ⟨rfl, rfl⟩

theorem Step.not_malformed {chars token rest} (first : Step chars token rest) :
    ¬ Malformed chars := by
  intro malformed
  cases first with
  | plain notOpening notClosing => cases malformed <;> contradiction
  | opening =>
    generalize same : '{' :: '{' :: rest = chars at malformed
    cases malformed with
    | stray => simp at same
    | unfinished single => exact single (by simp [← (List.cons.inj same).2])
    | @misnamed name _ single =>
      cases name with
      | nil => simp at same
      | cons char name => exact single (by simpa using (List.cons.inj (List.cons.inj same).2).1.symm)
  | closing =>
    generalize same : '}' :: '}' :: rest = chars at malformed
    cases malformed with
    | stray single => exact single (by simp [← (List.cons.inj same).2])
    | unfinished => simp at same
    | misnamed => simp at same
  | @named name rest nonempty words =>
    generalize same : '{' :: (name ++ '}' :: rest) = chars at malformed
    cases malformed with
    | stray => simp at same
    | unfinished _ open_ => exact open_ (by simp [← (List.cons.inj same).2])
    | misnamed _ next bad =>
      obtain ⟨rfl, _⟩ := cut_unique (name_free words) next (List.cons.inj same).2
      rcases bad with empty | ⟨char, member, notWord⟩
      · exact nonempty empty
      · exact absurd (words char member) (by simp [notWord])

theorem Step.not_ended {chars token rest} (first : Step chars token rest) : ¬ Ended chars := by
  rintro (rfl | malformed)
  · cases first
  · exact first.not_malformed malformed

/-- A text has one reading that goes as far as it can. -/
theorem Scan.unique {chars tokens rest others left} (first : Scan chars tokens rest)
    (ended : Ended rest) (second : Scan chars others left) (endedToo : Ended left) :
    tokens = others ∧ rest = left := by
  induction first generalizing others left with
  | here =>
    cases second with
    | here => exact ⟨rfl, rfl⟩
    | step next _ => exact absurd ended next.not_ended
  | step next further ih =>
    cases second with
    | here => exact absurd endedToo next.not_ended
    | step other more =>
      obtain ⟨rfl, rfl⟩ := next.unique other
      obtain ⟨rfl, rfl⟩ := ih ended more endedToo
      exact ⟨rfl, rfl⟩

/-- Reading can be cut behind any token. -/
theorem Scan.append {chars tokens middle others rest} (first : Scan chars tokens middle)
    (second : Scan middle others rest) : Scan chars (tokens ++ others) rest := by
  induction first with
  | here => exact second
  | step next _ ih => exact .step next (ih second)

theorem scanName_cons (opened : Nat) (sofar rest : List Char) {char : Char}
    (notClosing : char ≠ '}') :
    scanName opened sofar (char :: rest) =
      if isWord char then scanName opened (char :: sofar) rest else [.malformed opened] :=
  scanName.eq_3 _ _ _ _ notClosing

theorem scanText_plain (position : Nat) (rest : List Char) {char : Char} (notOpening : char ≠ '{')
    (notClosing : char ≠ '}') :
    scanText position (char :: rest) =
      .literal char :: scanText (position + char.utf8Size) rest :=
  scanText.eq_6 _ _ _ (fun _ same _ => notOpening same) (fun _ same _ => notClosing same)
    notOpening notClosing

theorem scanText_opening (position : Nat) {rest : List Char} (single : rest.head? ≠ some '{') :
    scanText position ('{' :: rest) = scanName position [] rest :=
  scanText.eq_4 _ _ fun tail same => single (by simp [same])

theorem scanText_stray (position : Nat) {rest : List Char} (single : rest.head? ≠ some '}') :
    scanText position ('}' :: rest) = [.malformed position] :=
  scanText.eq_5 _ _ fun tail same => single (by simp [same])

theorem scanName_named (opened : Nat) (sofar : List Char) {name tail : List Char}
    (words : ∀ char ∈ name, isWord char = true) (nonempty : sofar ++ name ≠ []) :
    scanName opened sofar (name ++ '}' :: tail) =
      .placeholder (String.ofList (sofar.reverse ++ name)) ::
        scanText (opened + (sofar.length + name.length) + 2) tail := by
  induction name generalizing sofar with
  | nil =>
    have some_ : sofar.isEmpty = false := by simpa using nonempty
    simp [scanName, some_]
  | cons char name ih =>
    have word := words char (by simp)
    have further := ih (char :: sofar) (fun other member => words other (by simp [member])) (by simp)
    have notClosing := (isWord_brace word).2
    rw [List.cons_append, scanName_cons _ _ _ notClosing, if_pos word, further]
    simp [Nat.add_comm, Nat.add_left_comm]

theorem scanName_misnamed (opened : Nat) (sofar : List Char) {name rest : List Char}
    (next : '}' ∉ name) (bad : ∃ char ∈ name, isWord char = false) :
    scanName opened sofar (name ++ rest) = [.malformed opened] := by
  induction name generalizing sofar with
  | nil => simp at bad
  | cons char name ih =>
    simp only [List.mem_cons, not_or] at next
    rw [List.cons_append, scanName_cons _ _ _ (Ne.symm next.1)]
    split
    next word =>
      apply ih _ next.2
      obtain ⟨other, member, notWord⟩ := bad
      rcases List.mem_cons.mp member with rfl | member
      · exact absurd word (by simp [notWord])
      · exact ⟨other, member, notWord⟩
    next => rfl

theorem scanName_unfinished (opened : Nat) (sofar : List Char) {rest : List Char}
    (open_ : '}' ∉ rest) : scanName opened sofar rest = [.malformed opened] := by
  induction rest generalizing sofar with
  | nil => simp [scanName]
  | cons char rest ih =>
    simp only [List.mem_cons, not_or] at open_
    rw [scanName_cons _ _ _ (Ne.symm open_.1)]
    split
    next => exact ih _ open_.2
    next => rfl

def bytes (chars : List Char) : Nat := (String.ofList chars).utf8ByteSize

theorem bytes_append (first second : List Char) :
    bytes (first ++ second) = bytes first + bytes second := by
  simp [bytes, String.ofList_append]

theorem bytes_cons (char : Char) (chars : List Char) :
    bytes (char :: chars) = char.utf8Size + bytes chars := by
  rw [← List.singleton_append, bytes_append]
  simp [bytes]

theorem bytes_name {name : List Char} (words : ∀ char ∈ name, isWord char = true) :
    bytes name = name.length := by
  induction name with
  | nil => rfl
  | cons char name ih =>
    rw [bytes_cons, ih fun other member => words other (by simp [member]),
      utf8Size_of_isWord (words char (by simp)), List.length_cons, Nat.add_comm]

/-- The scanner's tokens for a text that begins at a byte position are the grammar's,
and where something is left it says at which byte. -/
def Agrees (position : Nat) (chars : List Char) : Prop :=
  ∃ tokens consumed rest, chars = consumed ++ rest ∧ Scan chars tokens rest ∧ Ended rest ∧
    scanText position chars =
      tokens ++ if rest = [] then [] else [.malformed (position + bytes consumed)]

theorem Agrees.step {position chars token middle} (spelling : List Char)
    (first : Step chars token middle)
    (split : chars = spelling ++ middle)
    (scanned : scanText position chars = token :: scanText (position + bytes spelling) middle)
    (further : Agrees (position + bytes spelling) middle) : Agrees position chars := by
  obtain ⟨tokens, consumed, rest, rfl, scan, ended, tail⟩ := further
  refine ⟨token :: tokens, spelling ++ consumed, rest, ?_, .step first scan, ended, ?_⟩
  · rw [split, List.append_assoc]
  · rw [scanned, tail, bytes_append, Nat.add_assoc, List.cons_append]

theorem Agrees.malformed {position chars} (malformed : Malformed chars)
    (scanned : scanText position chars = [.malformed position]) : Agrees position chars := by
  have some_ : chars ≠ [] := by cases malformed <;> simp
  exact ⟨[], [], chars, rfl, .here, .inr malformed, by simp [scanned, some_, bytes]⟩

/-- A brace that is not doubled opens a name, or nothing can be read from it on. -/
private theorem agrees_opening {position : Nat} {rest : List Char} (single : rest.head? ≠ some '{')
    (further : ∀ offset tail, tail.length < rest.length → Agrees offset tail) :
    Agrees position ('{' :: rest) := by
  by_cases closed : '}' ∈ rest
  · obtain ⟨name, tail, rfl, next⟩ := List.eq_append_cons_of_mem closed
    by_cases good : name ≠ [] ∧ ∀ char ∈ name, isWord char = true
    · obtain ⟨nonempty, words⟩ := good
      have size : bytes ('{' :: (name ++ ['}'])) = name.length + 2 := by
        have closing : bytes ['}'] = 1 := rfl
        have opening : '{'.utf8Size = 1 := rfl
        rw [bytes_cons, bytes_append, bytes_name words, closing, opening]
        omega
      refine Agrees.step ('{' :: (name ++ ['}'])) (.named nonempty words) (by simp) ?_
        (further _ _ (by simp; omega))
      rw [scanText_opening _ single, scanName_named _ _ words (by simpa using nonempty), size]
      simp [Nat.add_assoc]
    · have bad : name = [] ∨ ∃ char ∈ name, isWord char = false := by
        by_cases empty : name = []
        · exact .inl empty
        · simp only [not_and, Classical.not_forall] at good
          obtain ⟨char, member, notWord⟩ := good empty
          exact .inr ⟨char, member, by simpa using notWord⟩
      have start : name.head? ≠ some '{' := by
        cases name with
        | nil => simp
        | cons => simpa using single
      apply Agrees.malformed (.misnamed start next bad)
      rw [scanText_opening _ single]
      rcases bad with rfl | bad
      · simp [scanName]
      · exact scanName_misnamed _ _ next bad
  · apply Agrees.malformed (.unfinished single closed)
    rw [scanText_opening _ single, scanName_unfinished _ _ closed]

theorem scanText_agrees (position : Nat) (chars : List Char) : Agrees position chars := by
  match chars with
  | [] => exact ⟨[], [], [], rfl, .here, .inl rfl, by simp [scanText]⟩
  | char :: rest =>
    by_cases opening : char = '{'
    · subst opening
      by_cases doubled : rest.head? = some '{'
      · obtain ⟨tail, rfl⟩ := List.head?_eq_some_iff.mp doubled
        exact .step ['{', '{'] .opening rfl (by rw [scanText.eq_2]; rfl)
          (scanText_agrees _ tail)
      · exact agrees_opening doubled fun offset tail _ => scanText_agrees offset tail
    · by_cases closing : char = '}'
      · subst closing
        by_cases doubled : rest.head? = some '}'
        · obtain ⟨tail, rfl⟩ := List.head?_eq_some_iff.mp doubled
          exact .step ['}', '}'] .closing rfl (by rw [scanText.eq_3]; rfl)
            (scanText_agrees _ tail)
        · exact .malformed (.stray doubled) (scanText_stray _ doubled)
      · refine .step [char] (.plain opening closing) rfl ?_ (scanText_agrees _ rest)
        rw [scanText_plain _ _ opening closing, bytes_cons]
        simp [bytes]
termination_by chars.length

theorem reserved_iff (bindings : Bindings) (name value : String) :
    bindings.reserved name = some value ↔ Reserved bindings name value := by
  constructor
  · intro found
    simp only [Bindings.reserved] at found
    split at found
    all_goals simp only [Option.some.injEq, Option.map_eq_some_iff, reduceCtorEq] at found
    all_goals first | (subst found; constructor) | skip
    obtain ⟨component, present, rfl⟩ := found
    exact .component present
  · rintro (_ | _)
    all_goals simp_all [Bindings.reserved]

theorem resolve_iff (bindings : Bindings) (name value : String) :
    bindings.resolve name = some value ↔ Resolves bindings name value := by
  have unbound : bindings.overrides.reverse.lookup name = none ↔
      ∀ pair ∈ bindings.overrides, pair.1 ≠ name := by
    simp only [List.lookup_eq_none_iff, List.mem_reverse, bne_iff_ne]
    exact ⟨fun free pair member => (free pair member).symm,
      fun free pair member => (free pair member).symm⟩
  constructor
  · intro found
    simp only [Bindings.resolve] at found
    split at found
    next bound =>
      obtain rfl := Option.some.inj found
      obtain ⟨before, after, split, first⟩ := List.lookup_eq_some_iff.mp bound
      refine @Resolves.override _ _ _ after.reverse before.reverse ?_ ?_
      · simpa using congrArg List.reverse split
      · intro pair member same
        exact absurd (first pair (List.mem_reverse.mp member)) (by simp [same])
    next bound => exact .reserved (unbound.mp bound) ((reserved_iff _ _ _).mp found)
  · rintro (⟨bound, last⟩ | ⟨free, bound⟩)
    · next before after =>
      have found : bindings.overrides.reverse.lookup name = some value := by
        refine List.lookup_eq_some_iff.mpr ⟨after.reverse, before.reverse, by simp [bound], ?_⟩
        intro pair member
        simpa using Ne.symm (last pair (List.mem_reverse.mp member))
      simp [Bindings.resolve, found]
    · simp [Bindings.resolve, unbound.mpr free, (reserved_iff _ _ _).mpr bound]

theorem Spells.rendered {bindings : Bindings} {tokens text}
    (spelled : Spells bindings tokens text) (template : String) :
    ∃ pieces, tokens.mapM (Token.render template bindings) = .ok pieces ∧
      String.join pieces = text := by
  induction spelled with
  | done => exact ⟨[], rfl, rfl⟩
  | @literal char _ _ _ ih =>
    obtain ⟨pieces, rendered, rfl⟩ := ih
    exact ⟨String.singleton char :: pieces, by simp [Token.render, rendered, bind, Except.bind, pure,
      Except.pure], by simp⟩
  | @placeholder name value _ _ bound _ ih =>
    obtain ⟨pieces, rendered, rfl⟩ := ih
    exact ⟨value :: pieces, by simp [Token.render, (resolve_iff _ _ _).mpr bound, rendered, bind,
      Except.bind, pure, Except.pure], by simp⟩

theorem Spells.nil_iff {bindings : Bindings} {text} : Spells bindings [] text ↔ text = "" := by
  constructor
  · intro spelled
    cases spelled
    rfl
  · rintro rfl
    exact .done

theorem Spells.literal_iff {bindings : Bindings} {char tokens text} :
    Spells bindings (.literal char :: tokens) text ↔
      ∃ further, Spells bindings tokens further ∧ text = String.singleton char ++ further := by
  constructor
  · intro spelled
    cases spelled with
    | literal further => exact ⟨_, further, rfl⟩
  · rintro ⟨further, spelled, rfl⟩
    exact .literal spelled

theorem Spells.placeholder_iff {bindings : Bindings} {name tokens text} :
    Spells bindings (.placeholder name :: tokens) text ↔
      ∃ value further, bindings.resolve name = some value ∧ Spells bindings tokens further ∧
        text = value ++ further := by
  constructor
  · intro spelled
    cases spelled with
    | placeholder bound further => exact ⟨_, _, (resolve_iff _ _ _).mpr bound, further, rfl⟩
  · rintro ⟨value, further, bound, spelled, rfl⟩
    exact .placeholder ((resolve_iff _ _ _).mp bound) spelled

theorem Spells.not_malformed {bindings : Bindings} {position tokens text} :
    ¬ Spells bindings (.malformed position :: tokens) text := by
  intro spelled
  cases spelled

theorem Spells.unique {bindings : Bindings} {tokens text other}
    (first : Spells bindings tokens text) (second : Spells bindings tokens other) :
    text = other := by
  induction first generalizing other with
  | done => exact (nil_iff.mp second).symm
  | literal _ ih =>
    obtain ⟨further, spelled, rfl⟩ := literal_iff.mp second
    rw [ih spelled]
  | placeholder bound _ ih =>
    obtain ⟨value, further, found, spelled, rfl⟩ := placeholder_iff.mp second
    rw [ih spelled, Option.some.inj (((resolve_iff _ _ _).mpr bound).symm.trans found)]

theorem Spells.append_iff {bindings : Bindings} {tokens others text} :
    Spells bindings (tokens ++ others) text ↔
      ∃ first second, Spells bindings tokens first ∧ Spells bindings others second ∧
        text = first ++ second := by
  constructor
  · intro spelled
    induction tokens generalizing text with
    | nil => exact ⟨"", text, .done, spelled, by simp⟩
    | cons token tokens ih =>
      cases spelled with
      | literal further =>
        obtain ⟨first, second, left, right, rfl⟩ := ih further
        exact ⟨_, second, .literal left, right, by rw [String.append_assoc]⟩
      | placeholder bound further =>
        obtain ⟨first, second, left, right, rfl⟩ := ih further
        exact ⟨_, second, .placeholder bound left, right, by rw [String.append_assoc]⟩
  · rintro ⟨first, second, left, right, rfl⟩
    induction left with
    | done => simpa using right
    | literal _ ih =>
      rw [String.append_assoc]
      exact .literal ih
    | placeholder bound _ ih =>
      rw [String.append_assoc]
      exact .placeholder bound ih

theorem Step.literal_or_placeholder {chars token rest} (first : Step chars token rest) :
    (∃ char, token = .literal char) ∨ ∃ name, token = .placeholder name := by
  cases first with
  | plain | opening | closing => exact .inl ⟨_, rfl⟩
  | named => exact .inr ⟨_, rfl⟩

theorem Scan.spelled_or_unbound {chars tokens rest} (bindings : Bindings)
    (scan : Scan chars tokens rest) :
    (∃ text, Spells bindings tokens text) ∨
      ∃ before name after text, tokens = before ++ .placeholder name :: after ∧
        Spells bindings before text ∧ ∀ value, ¬ Resolves bindings name value := by
  induction scan with
  | here => exact .inl ⟨"", .done⟩
  | step first _ ih =>
    rcases first.literal_or_placeholder with ⟨char, rfl⟩ | ⟨name, rfl⟩
    · rcases ih with ⟨text, spelled⟩ | ⟨before, name, after, text, rfl, spelled, unbound⟩
      · exact .inl ⟨_, .literal spelled⟩
      · exact .inr ⟨.literal char :: before, name, after, _, rfl, .literal spelled, unbound⟩
    · by_cases bound : ∃ value, Resolves bindings name value
      · obtain ⟨value, bound⟩ := bound
        rcases ih with ⟨text, spelled⟩ | ⟨before, other, after, text, rfl, spelled, unbound⟩
        · exact .inl ⟨_, .placeholder bound spelled⟩
        · exact .inr ⟨.placeholder name :: before, other, after, _, rfl, .placeholder bound spelled,
            unbound⟩
      · exact .inr ⟨[], name, _, "", rfl, .done, fun value resolved => bound ⟨value, resolved⟩⟩

theorem resolve_none {bindings : Bindings} {name : String}
    (unbound : ∀ value, ¬ Resolves bindings name value) : bindings.resolve name = none := by
  cases found : bindings.resolve name with
  | none => rfl
  | some value => exact absurd ((resolve_iff _ _ _).mp found) (unbound value)

/-- What a reading says about rendering when the scanner's tokens are its own. -/
theorem Reading.scan_eq {template tokens consumed rest}
    (reading : Reading template tokens consumed rest) :
    Template.scan template =
      tokens ++ if rest = [] then [] else [.malformed consumed.utf8ByteSize] := by
  obtain ⟨others, front, left, split, scan, ended, scanned⟩ := scanText_agrees 0 template.toList
  obtain ⟨rfl, rfl⟩ := reading.scan.unique reading.ended scan ended
  have same : front = consumed.toList := by
    have cut := congrArg String.toList reading.split
    rw [split, String.toList_append, String.toList_ofList] at cut
    exact List.append_cancel_right cut
  rw [Template.scan, scanned, same]
  simp [bytes]

theorem Reading.render_spelled {template tokens consumed} {bindings : Bindings} {text : String}
    (reading : Reading template tokens consumed []) (spelled : Spells bindings tokens text) :
    render template bindings = .ok text := by
  obtain ⟨pieces, rendered, rfl⟩ := spelled.rendered template
  simp [render, reading.scan_eq, rendered, bind, Except.bind, pure, Except.pure]

theorem Reading.render_offending {template tokens consumed rest} {bindings : Bindings} {fault : Fault}
    (reading : Reading template tokens consumed rest)
    (offends : Offends template bindings tokens consumed rest fault) :
    render template bindings = .error fault := by
  cases offends with
  | unresolved place earlier unbound =>
    obtain ⟨pieces, rendered, _⟩ := earlier.rendered template
    simp [render, reading.scan_eq, place, rendered, Token.render, resolve_none unbound, bind,
      Except.bind]
  | malformed earlier left =>
    obtain ⟨pieces, rendered, _⟩ := earlier.rendered template
    simp [render, reading.scan_eq, left, rendered, Token.render, bind, Except.bind]

theorem exists_reading (template : String) :
    ∃ tokens consumed rest, Reading template tokens consumed rest := by
  obtain ⟨tokens, consumed, rest, split, scan, ended, _⟩ := scanText_agrees 0 template.toList
  refine ⟨tokens, String.ofList consumed, rest, ?_, scan, ended⟩
  rw [← String.ofList_append, ← split, String.ofList_toList]

theorem Reading.unique {template tokens consumed rest others front left}
    (first : Reading template tokens consumed rest) (second : Reading template others front left) :
    tokens = others ∧ consumed = front ∧ rest = left := by
  obtain ⟨rfl, rfl⟩ := first.scan.unique first.ended second.scan second.ended
  refine ⟨rfl, ?_, rfl⟩
  have cut := congrArg String.toList (first.split.symm.trans second.split)
  rw [String.toList_append, String.toList_append] at cut
  exact String.toList_inj.mp (List.append_cancel_right cut)

theorem Reading.spells_or_offends {template tokens consumed rest}
    (reading : Reading template tokens consumed rest) (bindings : Bindings) :
    (rest = [] ∧ ∃ text, Spells bindings tokens text) ∨
      ∃ fault, Offends template bindings tokens consumed rest fault := by
  rcases reading.scan.spelled_or_unbound bindings with
    ⟨text, spelled⟩ | ⟨before, name, after, text, place, spelled, unbound⟩
  · by_cases left : rest = []
    · exact .inl ⟨left, text, spelled⟩
    · exact .inr ⟨_, .malformed spelled left⟩
  · exact .inr ⟨_, .unresolved place spelled unbound⟩

theorem Reading.render_ok_iff {template tokens consumed rest} {bindings : Bindings} {text : String}
    (reading : Reading template tokens consumed rest) :
    render template bindings = .ok text ↔ rest = [] ∧ Spells bindings tokens text := by
  constructor
  · intro rendered
    rcases reading.spells_or_offends bindings with ⟨rfl, other, spelled⟩ | ⟨fault, offends⟩
    · rw [reading.render_spelled spelled] at rendered
      obtain rfl := Except.ok.inj rendered
      exact ⟨rfl, spelled⟩
    · rw [reading.render_offending offends] at rendered
      cases rendered
  · rintro ⟨rfl, spelled⟩
    exact reading.render_spelled spelled

/-- Every template has exactly one reading, and rendering gives what the reading says:
the spelled text if nothing is left over and every placeholder resolves, and otherwise
the fault of the leftmost token that offends. -/
theorem render_reads_grammar (template : String) (bindings : Bindings) :
    ∃ tokens consumed rest, Reading template tokens consumed rest ∧
      (∀ others front left, Reading template others front left →
        others = tokens ∧ front = consumed ∧ left = rest) ∧
      (∀ text, render template bindings = .ok text ↔ rest = [] ∧ Spells bindings tokens text) ∧
      (∀ fault, render template bindings = .error fault ↔
        Offends template bindings tokens consumed rest fault) := by
  obtain ⟨tokens, consumed, rest, reading⟩ := exists_reading template
  refine ⟨tokens, consumed, rest, reading, fun _ _ _ other => other.unique reading, ?_, ?_⟩
  · intro text
    constructor
    · intro rendered
      rcases reading.spells_or_offends bindings with ⟨rfl, other, spelled⟩ | ⟨fault, offends⟩
      · have same := rendered.symm.trans (reading.render_spelled spelled)
        obtain rfl := Except.ok.inj same
        exact ⟨rfl, spelled⟩
      · cases rendered.symm.trans (reading.render_offending offends)
    · rintro ⟨rfl, spelled⟩
      exact reading.render_spelled spelled
  · intro fault
    constructor
    · intro rendered
      rcases reading.spells_or_offends bindings with ⟨rfl, other, spelled⟩ | ⟨other, offends⟩
      · cases rendered.symm.trans (reading.render_spelled spelled)
      · obtain rfl := Except.error.inj (rendered.symm.trans (reading.render_offending offends))
        exact offends
    · exact reading.render_offending

end VectorForge.Proofs.TemplateGrammar
