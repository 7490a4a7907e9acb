import VectorForge.Proofs.TemplateText

/-! A template repeated over components. The component at hand decides what a template says,
but never whether it can be filled in, so the first one fails for all of them. -/

namespace VectorForge.Proofs.SequenceExpansion
open Template TemplateText

/-- Where two functions fail alike on single items they fail alike on lists of them. -/
theorem mapM_fails_alike {ε α β : Type} {first second : α → Except ε β}
    (alike : ∀ item fault, first item = .error fault ↔ second item = .error fault)
    (items : List α) (fault : ε) :
    items.mapM first = .error fault ↔ items.mapM second = .error fault := by
  induction items with
  | nil => exact iff_of_false nofun nofun
  | cons item items ih =>
    rw [List.mapM_cons, List.mapM_cons]
    cases one : first item with
    | error cause =>
      rw [(alike item cause).mp one]
      exact Iff.rfl
    | ok value =>
      cases other : second item with
      | error cause =>
        rw [(alike item cause).mpr other] at one
        cases one
      | ok value =>
        simp only [bind, Except.bind]
        cases left : items.mapM first <;> cases right : items.mapM second <;>
          simp_all [pure, Except.pure]

/-- Bindings of the same names, whatever the names stand for. -/
def SameNames (first second : Bindings) : Prop :=
  ∀ name, first.resolve name = none ↔ second.resolve name = none

theorem token_fails_alike {first second : Bindings} (same : SameNames first second)
    (template : String) (token : Token) (fault : Fault) :
    token.render template first = .error fault ↔ token.render template second = .error fault := by
  cases token with
  | literal | malformed => exact Iff.rfl
  | placeholder name =>
    have alike := same name
    simp only [Token.render]
    cases one : first.resolve name <;> cases other : second.resolve name <;> simp_all

/-- Whether and how a template fails depends on the bound names alone. -/
theorem render_fails_alike {first second : Bindings} (same : SameNames first second)
    (template : String) (fault : Fault) :
    render template first = .error fault ↔ render template second = .error fault := by
  have fails (bindings : Bindings) : render template bindings = .error fault ↔
      (scan template).mapM (Token.render template bindings) = .error fault := by
    rw [render]
    cases (scan template).mapM (Token.render template bindings) <;>
      simp [bind, Except.bind, pure, Except.pure]
  rw [fails, fails]
  exact mapM_fails_alike (token_fails_alike same template) _ fault

variable (formatter : Formatter) {template : String} {overrides : List (String × String)}
  {piece : Component → String}

theorem components_bind_alike (overrides : List (String × String)) (one other : Component) :
    SameNames (formatter.bindings (some one) overrides)
      (formatter.bindings (some other) overrides) := by
  intro name
  have reserved : (formatter.bindings (some one) overrides).reserved name = none ↔
      (formatter.bindings (some other) overrides).reserved name = none := by
    simp only [Bindings.reserved]
    split <;> simp [Formatter.bindings]
  simp only [Bindings.resolve, Formatter.bindings] at reserved ⊢
  cases overrides.reverse.lookup name with
  | some value => exact Iff.rfl
  | none => exact reserved

theorem formatAt_fails_alike (template : String) (overrides : List (String × String))
    (one other : Component) (fault : Fault) :
    formatter.formatAt one template overrides = .error fault ↔
      formatter.formatAt other template overrides = .error fault :=
  render_fails_alike (components_bind_alike formatter overrides one other) template fault

theorem formatAt_succeeds {text : String}
    (first : formatter.formatAt .x template overrides = .ok text) :
    ∃ piece : Component → String, ∀ component,
      formatter.formatAt component template overrides = .ok (piece component) := by
  have filled (component : Component) :
      ∃ piece, formatter.formatAt component template overrides = .ok piece := by
    cases made : formatter.formatAt component template overrides with
    | ok piece => exact ⟨piece, rfl⟩
    | error fault =>
      rw [formatAt_fails_alike formatter template overrides component .x, first] at made
      cases made
  exact Classical.axiomOfChoice filled

/-- The components end where their positions do. -/
theorem pieces_beyond (filled : ∀ component,
      formatter.formatAt component template overrides = .ok (piece component))
    (start count : Nat) (inside : start ≤ Component.all.length)
    (beyond : Component.all.length < start + count) :
    formatter.pieces template overrides start count =
      .error (.componentOutOfRange Component.all.length) := by
  induction count generalizing start with
  | zero => omega
  | succ count ih =>
    by_cases last : start = Component.all.length
    · subst last
      rfl
    · have found : Component.all[start]? = some Component.all[start] :=
        List.getElem?_eq_getElem (by omega)
      have further := ih (start + 1) (by omega) (by omega)
      simp only [Formatter.pieces, ofIndex_of_getElem? found, filled, further, bind, Except.bind]

/-- What a template repeated over the first components comes to. -/
inductive Expansion (template separator : String) (overrides : List (String × String)) :
    Nat → Except Fault String → Prop where
  /-- The template is not looked at. -/
  | empty : Expansion template separator overrides 0 (.ok "")
  | refused {count : Nat} {fault : Fault} (nonempty : 0 < count)
      (fails : formatter.formatAt .x template overrides = .error fault) :
      Expansion template separator overrides count (.error fault)
  | beyond {count : Nat} {text : String} (many : 5 < count)
      (renders : formatter.formatAt .x template overrides = .ok text) :
      Expansion template separator overrides count (.error (.componentOutOfRange 5))
  | joined {count : Nat} {piece : Component → String} (nonempty : 0 < count) (few : count ≤ 5)
      (renders : ∀ component,
        formatter.formatAt component template overrides = .ok (piece component)) :
      Expansion template separator overrides count
        (.ok (separator.intercalate ((Component.all.take count).map piece)))

variable {formatter} {separator : String} {count : Nat} {result : Except Fault String}

theorem Expansion.sequenceN_eq
    (expansion : Expansion formatter template separator overrides count result) :
    formatter.sequenceN template separator count overrides = result := by
  cases expansion with
  | empty => rfl
  | refused nonempty fails =>
    obtain ⟨count, rfl⟩ := Nat.exists_eq_succ_of_ne_zero (Nat.ne_of_gt nonempty)
    have first : Component.ofIndex 0 = .ok .x := rfl
    simp only [Formatter.sequenceN, Formatter.pieces, first, fails, bind, Except.bind]
  | beyond many renders =>
    obtain ⟨piece, filled⟩ := formatAt_succeeds formatter renders
    have ended := pieces_beyond formatter filled 0 count (Nat.zero_le _) (by rwa [Nat.zero_add])
    rw [Formatter.sequenceN, ended]
    rfl
  | joined _ few renders => exact TemplateText.sequenceN_eq formatter renders separator few

theorem exists_expansion (formatter : Formatter) (template separator : String)
    (overrides : List (String × String)) (count : Nat) :
    ∃ result, Expansion formatter template separator overrides count result := by
  by_cases nonempty : 0 < count
  · cases first : formatter.formatAt .x template overrides with
    | error fault => exact ⟨_, .refused nonempty first⟩
    | ok text =>
      by_cases many : 5 < count
      · exact ⟨_, .beyond many first⟩
      · obtain ⟨piece, renders⟩ := formatAt_succeeds formatter first
        exact ⟨_, .joined nonempty (Nat.le_of_not_lt many) renders⟩
  · obtain rfl : count = 0 := Nat.eq_zero_of_not_pos nonempty
    exact ⟨_, .empty⟩

/-- A sequence fails for all components where it fails for the first one, then at the position
without a name, and otherwise joins the pieces in ascending order of the components. -/
theorem sequence_expands (formatter : Formatter) (template separator : String)
    (overrides : List (String × String)) :
    (∀ component fault, formatter.formatAt component template overrides = .error fault ↔
      formatter.formatAt .x template overrides = .error fault) ∧
    (∀ count result, formatter.sequenceN template separator count overrides = result ↔
      Expansion formatter template separator overrides count result) ∧
    formatter.sequence template separator overrides =
      formatter.sequenceN template separator formatter.dimension.size overrides := by
  refine ⟨?_, ?_, rfl⟩
  · intro component fault
    exact formatAt_fails_alike formatter template overrides component .x fault
  · intro count result
    constructor
    · rintro rfl
      obtain ⟨other, expansion⟩ :=
        exists_expansion formatter template separator overrides count
      rwa [expansion.sequenceN_eq]
    · exact Expansion.sequenceN_eq

end VectorForge.Proofs.SequenceExpansion
