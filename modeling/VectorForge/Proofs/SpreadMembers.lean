import VectorForge.Proofs.ProgramText
import VectorForge.Proofs.ScopedDepth

/-! Members that are spread over lines. Written line by line, with the items in a scope of their
own, a spread member leaves the writer where it was, and its lines put together are the member on
one line. -/

namespace VectorForge.Proofs.SpreadMembers
open ProgramText ScopedDepth

/-- The first line of a spread member: all in front of the items. -/
def opening (member : Member) : String := member.signature ++ " => " ++ member.body

/-- The items with what follows each of them. Only the last one closes the call. -/
def endedItems (items : List String) : List String :=
  items.mapIdx fun index item => item ++ if index + 1 < items.length then "," else ");"

/-- The steps that write a member line by line. -/
def spreading (member : Member) (items : List String) : Program :=
  (if member.isInline then .write inlineHint else .done) ++ Program.write (opening member) ++
    indented (.writeAll (endedItems items))

def hintLines (member : Member) (depth : Nat) : List Line :=
  if member.isInline then [⟨depth, inlineHint, 1⟩] else []

/-- The lines behind the hint, one for each item and one above them. -/
def brokenLines (member : Member) (items : List String) (depth : Nat) : List Line :=
  ⟨depth, opening member, 1⟩ :: (endedItems items).map fun text => ⟨depth + 1, text, 1⟩

/-- The member with the whole call as its body. -/
def unbroken (member : Member) (items : List String) : Member :=
  member.giving (member.body ++ ",".intercalate items ++ ")")

variable {region : Option String} {items : List String}

/-- An item that another one follows does not close the call. -/
theorem endedItems_cons (item next : String) (rest : List String) :
    endedItems (item :: next :: rest) = (item ++ ",") :: endedItems (next :: rest) := by
  simp [endedItems]

theorem itemLines_eq (items : List String) :
    Member.itemLines items = (endedItems items).map fun text => ⟨1, text, 1⟩ := by
  induction items with
  | nil => rfl
  | cons item rest ih =>
    cases rest with
    | nil => rfl
    | cons next rest =>
      rw [endedItems_cons, List.map_cons, ← ih, Member.itemLines]
      exact List.cons_ne_nil _ _

theorem join_endedItems (filled : items ≠ []) :
    String.join (endedItems items) = ",".intercalate items ++ ");" := by
  induction items with
  | nil => contradiction
  | cons item rest ih =>
    cases rest with
    | nil => simp [endedItems]
    | cons next rest =>
      rw [endedItems_cons, String.join_cons, ih (List.cons_ne_nil _ _),
        String.intercalate_cons_cons]
      simp only [String.append_assoc]

theorem spreadLines_deepened (member : Member) (items : List String) (depth : Nat) :
    (member.spreadLines items).map (Line.deepen depth) =
      hintLines member depth ++ brokenLines member items depth := by
  have hints : member.hints.map (Line.deepen depth) = hintLines member depth := by
    unfold Member.hints hintLines
    split <;> simp [Line.deepen]
  rw [Member.spreadLines, List.map_append, hints, List.map_cons, itemLines_eq]
  simp [brokenLines, opening, Line.deepen, Nat.add_comm]

/-- The level of the entry comes back behind what the body writes. -/
theorem indented_writes {body : Program} {lines : List Line} (inner : Writes region body lines) :
    Writes region (indented body) (lines.map (Line.deepen 1)) := by
  intro writer opened
  obtain ⟨trace, ran, succeeded⟩ := inner writer.indent opened
  refine ⟨trace ++ [⟨.inr .indented, .ok (), writer.append (lines.map (Line.deepen 1))⟩], ?_, ?_⟩
  · simp only [indented, Program.run, Scope.enter, Scope.leave, ran]
    simp [Writer.append, Writer.indent, Line.deepen]
    omega
  · simpa [or_imp, forall_and] using succeeded

theorem spreading_writes (member : Member) (items : List String) :
    Writes region (spreading member items) (member.spreadLines items) := by
  have hints : Writes region (if member.isInline then .write inlineHint else .done)
      member.hints := by
    unfold Member.hints
    split
    · exact .write inlineHint
    · exact .done
  have body : Writes region (indented (.writeAll (endedItems items))) _ :=
    indented_writes (.writeAll (endedItems items))
  have all := (hints.append (.write (opening member))).append body
  rw [Member.spreadLines, itemLines_eq]
  simpa [spreading, opening, CodeSyntax.listed, Line.deepen, Function.comp_def] using all

theorem line_unbroken (member : Member) (items : List String) :
    (unbroken member items).line = opening member ++ (",".intercalate items ++ ");") := by
  have signature : (unbroken member items).signature = member.signature := rfl
  rw [Member.line, signature]
  simp [unbroken, Member.giving, opening, String.append_assoc]

/-- Without items nothing closes the call. -/
theorem joined_iff (member : Member) (items : List String) (depth : Nat) :
    String.join ((brokenLines member items depth).map Line.text) = (unbroken member items).line ↔
      items ≠ [] := by
  have joined : String.join ((brokenLines member items depth).map Line.text) =
      opening member ++ String.join (endedItems items) := by
    simp [brokenLines, Function.comp_def]
  rw [joined, line_unbroken]
  constructor
  · rintro same rfl
    simpa [endedItems] using congrArg String.length same
  · intro filled
    rw [join_endedItems filled]

/-- A step has added the lines of a spread member and changed nothing else. -/
structure Spreads (member : Member) (items : List String) (before : Writer) (step : Outcome) :
    Prop where
  result : step.result = .ok ()
  depth : step.writer.depth = before.depth
  region : step.writer.region = before.region
  lines : step.writer.lines =
    before.lines ++ hintLines member before.depth ++ brokenLines member items before.depth
  text : ∀ style : Style, style.layout step.writer.lines =
    style.layout before.lines ++ style.layout (hintLines member before.depth) ++
      style.layout (brokenLines member items before.depth)

theorem Spreads.of_writes {program : Program} {member : Member}
    (writes : ∀ region, Writes region program (member.spreadLines items)) (before : Writer) :
    Spreads member items before (program.run before) := by
  obtain ⟨trace, ran, -⟩ := writes before.region before rfl
  have lines : (program.run before).writer.lines =
      before.lines ++ hintLines member before.depth ++ brokenLines member items before.depth := by
    rw [ran, List.append_assoc, ← spreadLines_deepened]
    rfl
  constructor
  · rw [ran]
  · rw [ran]
    rfl
  · rw [ran]
    rfl
  · exact lines
  · intro style
    rw [lines, Style.layout_append, Style.layout_append]

/-- A spread member, whether written at once or line by line, always succeeds on any writer and
leaves its level and its region alone. Put together, the lines behind its hint are the member on
one line, just when there is an item to close the call. -/
theorem spread_joins_line (member : Member) (items : List String) (before : Writer) :
    Spreads member items before ((Program.spread member items).run before) ∧
      Spreads member items before ((spreading member items).run before) ∧
      (String.join ((brokenLines member items before.depth).map Line.text) =
          (unbroken member items).line ↔ items ≠ []) := by
  refine ⟨?_, ?_, joined_iff member items before.depth⟩
  · exact Spreads.of_writes (fun _ => .spread member items) before
  · exact Spreads.of_writes (fun _ => spreading_writes member items) before

/-- A member with two items, written one level deep. -/
example :
    let member := (((Member.method "Min" "Int2").taking "in Int2 v").giving "new(").inlined
    ((Program.spread member ["a", "b"]).run { depth := 1 }).writer.lines =
      [⟨1, inlineHint, 1⟩, ⟨1, "public readonly Int2 Min(in Int2 v) => new(", 1⟩, ⟨2, "a,", 1⟩,
        ⟨2, "b);", 1⟩] := rfl

end VectorForge.Proofs.SpreadMembers
