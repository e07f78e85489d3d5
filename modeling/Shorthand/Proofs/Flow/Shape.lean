import Shorthand.Proofs.Flow.Program

/-!
# Recognising well-structured programs

Whether a list of statements is well-structured can be seen while it is read from the left: all
that has to be kept is what is open, the `Shape`.  `accepts_iff` says that the lists that are
read to a good end are exactly those with a derivation.

## Strategy

From a derivation to a reading, one looks at each construct in turn: reading it leads back to
the shape before it.  The other direction has to find the derivation of a list of which only a
remainder is left to be read.  So `Completes shape rest` says what such a remainder looks like:
it begins with more of what may stand in the innermost part that is open, and then ends that part,
or turns to its alternative, and goes on as a remainder for the shape after that.  When the
reading is followed backwards, every statement that opens a construct takes the remainder of
its own apart, and puts the construct at the beginning of the remainder around it.
-/

namespace Shorthand

/-- What is open. -/
inductive Shape where
  | nothing
  | compile
  /-- A body, with its open constructs, the innermost first.  Of each it is kept whether an
  alternative can follow. -/
  | body (constructs : List Bool)
deriving DecidableEq

namespace Shape

/-- The shape at the start of a block. -/
def opened : BlockHead → Shape
  | .compile => .compile
  | .main | .function _ => .body []

/-- Whether no construct is open. -/
def isLevel : Shape → Bool
  | nothing | compile | body [] => true
  | body (_ :: _) => false

/-- The shape after a construct is opened. -/
def enter? (shape : Shape) (turns : Bool) : Option Shape :=
  match shape with
  | nothing | compile => none
  | body constructs => some (body (turns :: constructs))

/-- The shape after the turn to an alternative. -/
def turn? : Shape → Option Shape
  | body (true :: constructs) => some (body (false :: constructs))
  | body _ | nothing | compile => none

/-- The shape after the innermost construct or the block is closed. -/
def leave? : Shape → Option Shape
  | nothing => none
  | compile | body [] => some nothing
  | body (_ :: constructs) => some (body constructs)

/-- Whether the shape is that of a body. -/
def isBody : Shape → Bool
  | nothing | compile => false
  | body _ => true

/-- Whether the statement opens and closes nothing, and may stand here. -/
def allows (shape : Shape) : Statement → Bool
  | .comment _ => true
  | .declare declaration => declaration.isVariable || shape == compile
  | statement => statement.isSimple && shape.isBody

/-- The shape after a statement, if the statement may stand here. -/
def next? (shape : Shape) (statement : Statement) : Option Shape :=
  match statement with
  | .block head _ => if shape.isLevel then some (opened head) else none
  | .branch _ => shape.enter? true
  | .loop _ => shape.enter? false
  | .otherwise => shape.turn?
  | .close => shape.leave?
  | _ => if shape.allows statement then some shape else none

/-- The statements can be read, and nothing is open at their end but possibly a block. -/
def Accepts : Shape → List Statement → Prop
  | shape, [] => shape.isLevel = true
  | shape, statement :: rest => ∃ shape', shape.next? statement = some shape' ∧ shape'.Accepts rest

/-! ## What may stand in an open part -/

/-- The statements are some that may stand in the innermost part that is open. -/
def Content : Shape → List Statement → Prop
  | nothing, content => ∃ notes : List Note, content = notes.map Note.statement
  | compile, content => ∃ entries : List Entry, content = entries.map Entry.statement
  | body _, content => ∃ flow : Flow, content = flow.statements

theorem content_nil (shape : Shape) : shape.Content [] := by
  cases shape with
  | nothing => exact ⟨[], rfl⟩
  | compile => exact ⟨[], rfl⟩
  | body constructs => exact ⟨.done, rfl⟩

private theorem eq_const_of_not_isVariable {declaration : Declaration}
    (h : ¬ declaration.isVariable = true) : ∃ name value, declaration = .const name value := by
  cases declaration with
  | const name value => exact ⟨name, value, rfl⟩
  | scalar | array | string | buffer => exact absurd rfl h

theorem Content.cons {shape : Shape} {statement : Statement} {content : List Statement}
    (hcontent : shape.Content content) (hallows : shape.allows statement = true) :
    shape.Content (statement :: content) := by
  cases shape with
  | nothing =>
      obtain ⟨notes, rfl⟩ := hcontent
      cases statement with
      | comment text => exact ⟨.comment text :: notes, rfl⟩
      | declare declaration =>
          have hvariable : declaration.isVariable = true := by simpa [allows] using hallows
          exact ⟨.declare ⟨declaration, hvariable⟩ :: notes, rfl⟩
      | _ => simp [allows, isBody] at hallows
  | compile =>
      obtain ⟨entries, rfl⟩ := hcontent
      cases statement with
      | comment text => exact ⟨.note (.comment text) :: entries, rfl⟩
      | declare declaration =>
          by_cases hvariable : declaration.isVariable = true
          · exact ⟨.note (.declare ⟨declaration, hvariable⟩) :: entries, rfl⟩
          · obtain ⟨name, value, rfl⟩ := eq_const_of_not_isVariable hvariable
            exact ⟨.const name value :: entries, rfl⟩
      | _ => simp [allows, isBody] at hallows
  | body constructs =>
      obtain ⟨flow, rfl⟩ := hcontent
      cases statement with
      | comment text => exact ⟨.comment text flow, rfl⟩
      | declare declaration =>
          have hvariable : declaration.isVariable = true := by simpa [allows] using hallows
          exact ⟨.declare ⟨declaration, hvariable⟩ flow, rfl⟩
      | block | branch | loop | otherwise | close => simp [allows, Statement.isSimple] at hallows
      | _ => exact ⟨.simple ⟨_, rfl⟩ flow, rfl⟩

/-! ## From readings to derivations -/

/-- What remains to be read: more of the innermost part that is open, and then its end or its
turn to an alternative, with what remains after that. -/
inductive Completes : Shape → List Statement → Prop where
  | stop {shape : Shape} {content : List Statement} (hcontent : shape.Content content)
      (hlevel : shape.isLevel = true) : Completes shape content
  | block {shape : Shape} {content rest : List Statement} {head : BlockHead} {colon : Bool}
      (hcontent : shape.Content content) (hlevel : shape.isLevel = true)
      (hrest : Completes (opened head) rest) :
      Completes shape (content ++ .block head colon :: rest)
  | close {shape shape' : Shape} {content rest : List Statement}
      (hcontent : shape.Content content) (hshape : shape.leave? = some shape')
      (hrest : Completes shape' rest) : Completes shape (content ++ .close :: rest)
  | turn {shape shape' : Shape} {content rest : List Statement}
      (hcontent : shape.Content content) (hshape : shape.turn? = some shape')
      (hrest : Completes shape' rest) : Completes shape (content ++ .otherwise :: rest)

namespace Completes

theorem prepend {shape : Shape} {rest : List Statement} (h : Completes shape rest)
    (pre : List Statement)
    (hpre : ∀ content, shape.Content content → shape.Content (pre ++ content)) :
    Completes shape (pre ++ rest) := by
  cases h with
  | stop hcontent hlevel => exact .stop (hpre _ hcontent) hlevel
  | block hcontent hlevel hrest =>
      rw [← List.append_assoc]
      exact .block (hpre _ hcontent) hlevel hrest
  | close hcontent hshape hrest =>
      rw [← List.append_assoc]
      exact .close (hpre _ hcontent) hshape hrest
  | turn hcontent hshape hrest =>
      rw [← List.append_assoc]
      exact .turn (hpre _ hcontent) hshape hrest

/-- The remainder of a construct that cannot turn to an alternative (any more). -/
theorem of_last {constructs : List Bool} {rest : List Statement}
    (h : Completes (.body (false :: constructs)) rest) :
    ∃ (flow : Flow) (after : List Statement), rest = flow.statements ++ .close :: after ∧
      Completes (.body constructs) after := by
  cases h with
  | stop hcontent hlevel => cases hlevel
  | block hcontent hlevel hrest => cases hlevel
  | turn hcontent hshape hrest => cases hshape
  | close hcontent hshape hrest =>
      obtain ⟨flow, rfl⟩ := hcontent
      cases hshape
      exact ⟨flow, _, rfl, hrest⟩

/-- A loop takes the remainder of its own apart. -/
theorem loop {constructs : List Bool} {rest : List Statement}
    (h : Completes (.body (false :: constructs)) rest) (cond? : Option Condition) :
    Completes (.body constructs) (.loop cond? :: rest) := by
  -- up to its end the remainder is the inside of the loop, and the rest continues outside
  obtain ⟨inner, after, rfl, hafter⟩ := h.of_last
  have hpre := hafter.prepend (.loop cond? :: (inner.statements ++ [.close])) ?_
  · simpa using hpre
  · rintro _ ⟨flow, rfl⟩
    exact ⟨.loop cond? inner flow, by simp [Flow.statements]⟩

/-- So does a conditional, with or without an alternative. -/
theorem branch {constructs : List Bool} {rest : List Statement}
    (h : Completes (.body (true :: constructs)) rest) (cond : Condition) :
    Completes (.body constructs) (.branch cond :: rest) := by
  cases h with
  | stop hcontent hlevel => cases hlevel
  | block hcontent hlevel hrest => cases hlevel
  | close hcontent hshape hrest =>
      obtain ⟨inner, rfl⟩ := hcontent
      cases hshape
      have hpre := hrest.prepend (.branch cond :: (inner.statements ++ [.close])) ?_
      · simpa using hpre
      · rintro _ ⟨flow, rfl⟩
        exact ⟨.branch cond inner flow, by simp [Flow.statements]⟩
  | turn hcontent hshape hrest =>
      -- after the turn the construct has become one that can only be closed
      obtain ⟨inner, rfl⟩ := hcontent
      cases hshape
      obtain ⟨alternative, after, rfl, hafter⟩ := hrest.of_last
      have hpre := hafter.prepend (.branch cond :: (inner.statements ++
        .otherwise :: (alternative.statements ++ [.close]))) ?_
      · simpa using hpre
      · rintro _ ⟨flow, rfl⟩
        exact ⟨.choice cond inner alternative flow, by simp [Flow.statements]⟩

/-- A statement that opens and closes nothing belongs to the part that is open. -/
theorem cons {shape : Shape} {statement : Statement} {rest : List Statement}
    (h : Completes shape rest) (hallows : shape.allows statement = true) :
    Completes shape (statement :: rest) :=
  h.prepend [statement] fun _ hcontent => hcontent.cons hallows

end Completes

/-- Following a reading backwards by one statement. -/
theorem Completes.step {shape shape' : Shape} {statement : Statement} {rest : List Statement}
    (h : Completes shape' rest) (hnext : shape.next? statement = some shape') :
    Completes shape (statement :: rest) := by
  have hempty := shape.content_nil
  cases statement with
  | block head colon =>
      by_cases hlevel : shape.isLevel = true
      · simp only [next?, hlevel, if_true, Option.some.injEq] at hnext
        rw [← hnext] at h
        exact .block hempty hlevel h
      · simp [next?, hlevel] at hnext
  | branch cond =>
      cases shape with
      | nothing | compile => cases hnext
      | body constructs =>
          cases hnext
          exact h.branch cond
  | loop cond? =>
      cases shape with
      | nothing | compile => cases hnext
      | body constructs =>
          cases hnext
          exact h.loop cond?
  | otherwise => exact .turn hempty hnext h
  | close => exact .close hempty hnext h
  | _ =>
      simp only [next?, Option.ite_none_right_eq_some, Option.some.injEq] at hnext
      obtain ⟨hallows, rfl⟩ := hnext
      exact h.cons hallows

theorem completes_of_accepts {shape : Shape} {statements : List Statement}
    (h : shape.Accepts statements) : Completes shape statements := by
  induction statements generalizing shape with
  | nil => exact .stop shape.content_nil h
  | cons statement rest ih =>
      obtain ⟨shape', hnext, hrest⟩ := h
      exact (ih hrest).step hnext

/-! ## From derivations to readings -/

/-- The statements of blocks, each with what stands after it. -/
def partStatements (parts : List (Part × List Note)) : List Statement :=
  parts.flatMap fun (part, notes) => part.statements ++ notes.map Note.statement

theorem partStatements_cons (part : Part) (notes : List Note) (parts : List (Part × List Note)) :
    partStatements ((part, notes) :: parts) =
      part.statements ++ (notes.map Note.statement ++ partStatements parts) := by
  rw [partStatements, List.flatMap_cons, List.append_assoc]
  rfl

theorem next?_of_allows {shape : Shape} {statement : Statement}
    (hallows : shape.allows statement = true) : shape.next? statement = some shape := by
  cases statement with
  | block | branch | loop | otherwise | close => simp [allows, Statement.isSimple] at hallows
  | _ => simp only [next?, hallows, if_true]

theorem accepts_cons_of_allows {shape : Shape} {statement : Statement} {rest : List Statement}
    (hallows : shape.allows statement = true) :
    shape.Accepts (statement :: rest) ↔ shape.Accepts rest := by
  simp [Accepts, next?_of_allows hallows]

@[simp] theorem accepts_note {shape : Shape} (note : Note) (rest : List Statement) :
    shape.Accepts (note.statement :: rest) ↔ shape.Accepts rest := by
  cases note with
  | comment text => exact accepts_cons_of_allows rfl
  | declare declaration =>
      exact accepts_cons_of_allows (by simp [Note.statement, allows, declaration.property])

theorem accepts_notes {shape : Shape} (notes : List Note) (rest : List Statement) :
    shape.Accepts (notes.map Note.statement ++ rest) ↔ shape.Accepts rest := by
  induction notes with
  | nil => rfl
  | cons note notes ih =>
      rw [List.map_cons, List.cons_append, accepts_note, ih]

theorem accepts_entries (entries : List Entry) (rest : List Statement) :
    compile.Accepts (entries.map Entry.statement ++ rest) ↔ compile.Accepts rest := by
  induction entries with
  | nil => rfl
  | cons entry entries ih =>
      rw [List.map_cons, List.cons_append, ← ih]
      cases entry with
      | const name value => exact accepts_cons_of_allows rfl
      | note note => exact accepts_note note _

/-- Reading a flow leads back to where it began. -/
theorem accepts_flow (flow : Flow) (constructs : List Bool) (rest : List Statement) :
    (body constructs).Accepts (flow.statements ++ rest) ↔ (body constructs).Accepts rest := by
  induction flow generalizing constructs rest with
  | done => rfl
  | simple statement flow ih =>
      obtain ⟨statement, hsimple⟩ := statement
      rw [← ih constructs rest]
      cases statement with
      | block | branch | loop | otherwise | close | comment | declare => cases hsimple
      | _ => exact accepts_cons_of_allows rfl
  | declare declaration flow ih =>
      rw [← ih constructs rest]
      exact accepts_note (.declare declaration) _
  | comment text flow ih =>
      rw [← ih constructs rest]
      exact accepts_note (.comment text) _
  | branch cond inner flow ihi ih =>
      simp [Flow.statements, Accepts, next?, enter?, leave?, ihi, ih]
  | choice cond inner alternative flow ihi iha ih =>
      simp [Flow.statements, Accepts, next?, enter?, turn?, leave?, ihi, iha, ih]
  | loop cond? inner flow ihi ih =>
      simp [Flow.statements, Accepts, next?, enter?, leave?, ihi, ih]

/-- After a block whose end may be written or not, nothing is open but possibly the block. -/
private theorem accepts_closing (shape : Shape) (hlevel : shape.isLevel = true)
    (hopen : shape ≠ nothing) (ended : Bool) {rest : List Statement}
    (hrest : ∀ shape' : Shape, shape'.isLevel = true → shape'.Accepts rest) :
    shape.Accepts (closing ended ++ rest) := by
  cases ended with
  | false => exact hrest shape hlevel
  | true =>
      match shape with
      | nothing => exact absurd rfl hopen
      | compile | body [] => exact ⟨nothing, rfl, hrest nothing rfl⟩

theorem accepts_parts (parts : List (Part × List Note)) {shape : Shape}
    (hlevel : shape.isLevel = true) : shape.Accepts (partStatements parts) := by
  induction parts generalizing shape with
  | nil => exact hlevel
  | cons entry parts ih =>
      obtain ⟨part, notes⟩ := entry
      rw [partStatements_cons]
      -- what follows is read in the same way, whether the end of the block is written or not
      have hrest : ∀ shape' : Shape, shape'.isLevel = true →
          shape'.Accepts (notes.map Note.statement ++ partStatements parts) := by
        intro shape' hlevel'
        rw [accepts_notes]
        exact ih hlevel'
      cases part with
      | compile colon entries ended =>
          have hclosing := accepts_closing compile rfl nofun ended hrest
          rw [← accepts_entries entries] at hclosing
          refine ⟨compile, by simp [next?, hlevel, opened], ?_⟩
          rw [← List.append_assoc] at hclosing
          exact hclosing
      | body kind colon flow ended =>
          have hclosing := accepts_closing (body []) rfl nofun ended hrest
          rw [← accepts_flow flow] at hclosing
          have hopened : opened kind.head = body [] := by cases kind <;> rfl
          refine ⟨body [], by simp [next?, hlevel, hopened], ?_⟩
          rw [← List.append_assoc] at hclosing
          exact hclosing

/-! ## The two agree -/

/-- What remains of a program when nothing but possibly a block is open. -/
private def Continues (statements : List Statement) : Shape → Prop
  | nothing => ∃ (notes : List Note) (parts : _), statements =
      notes.map Note.statement ++ partStatements parts
  | compile => ∃ (entries : List Entry) (ended : Bool) (notes : List Note) (parts : _), statements =
      entries.map Entry.statement ++
        (closing ended ++ (notes.map Note.statement ++ partStatements parts))
  | body [] => ∃ (flow : Flow) (ended : Bool) (notes : List Note) (parts : _), statements =
      flow.statements ++ (closing ended ++ (notes.map Note.statement ++ partStatements parts))
  | body (_ :: _) => True

/-- A head with what remains of its block is the beginning of more blocks. -/
private theorem Continues.block {head : BlockHead} {rest : List Statement}
    (h : Continues rest (opened head)) (colon : Bool) :
    ∃ parts, .block head colon :: rest = partStatements parts := by
  cases head with
  | compile =>
      obtain ⟨entries, ended, notes, parts, rfl⟩ := h
      exact ⟨(.compile colon entries ended, notes) :: parts,
        by simp [partStatements_cons, Part.statements]⟩
  | main =>
      obtain ⟨flow, ended, notes, parts, rfl⟩ := h
      exact ⟨(.body .main colon flow ended, notes) :: parts,
        by simp [partStatements_cons, Part.statements, Lowering.BodyKind.head]⟩
  | function name =>
      obtain ⟨flow, ended, notes, parts, rfl⟩ := h
      exact ⟨(.body (.function name) colon flow ended, notes) :: parts,
        by simp [partStatements_cons, Part.statements, Lowering.BodyKind.head]⟩

private theorem continues_of_completes {shape : Shape} {statements : List Statement}
    (h : Completes shape statements) : Continues statements shape := by
  induction h with
  | @stop shape content hcontent hlevel =>
      -- a construct that is open is no level, so only these three remain
      match shape with
      | nothing =>
          obtain ⟨notes, rfl⟩ := hcontent
          exact ⟨notes, [], by simp [partStatements]⟩
      | compile =>
          obtain ⟨entries, rfl⟩ := hcontent
          exact ⟨entries, false, [], [], by simp [partStatements, closing]⟩
      | body [] =>
          obtain ⟨flow, rfl⟩ := hcontent
          exact ⟨flow, false, [], [], by simp [partStatements, closing]⟩
  | @block shape content rest head colon hcontent hlevel hrest ih =>
      obtain ⟨parts, hparts⟩ := ih.block colon
      match shape with
      | nothing =>
          obtain ⟨notes, rfl⟩ := hcontent
          exact ⟨notes, parts, by rw [hparts]⟩
      | compile =>
          obtain ⟨entries, rfl⟩ := hcontent
          exact ⟨entries, false, [], parts, by rw [hparts]; rfl⟩
      | body [] =>
          obtain ⟨flow, rfl⟩ := hcontent
          exact ⟨flow, false, [], parts, by rw [hparts]; rfl⟩
  | @close shape shape' content rest hcontent hshape hrest ih =>
      match shape with
      | compile =>
          obtain ⟨entries, rfl⟩ := hcontent
          cases hshape
          obtain ⟨notes, parts, rfl⟩ := ih
          exact ⟨entries, true, notes, parts, rfl⟩
      | body [] =>
          obtain ⟨flow, rfl⟩ := hcontent
          cases hshape
          obtain ⟨notes, parts, rfl⟩ := ih
          exact ⟨flow, true, notes, parts, rfl⟩
      | body (_ :: _) => trivial
  | @turn shape shape' content rest hcontent hshape hrest ih =>
      match shape with
      | body (_ :: _) => trivial

/-- The lists that are read to a good end are those of programs. -/
theorem accepts_iff {statements : List Statement} :
    nothing.Accepts statements ↔ ∃ program : Program, program.statements = statements := by
  constructor
  · intro h
    obtain ⟨notes, parts, rfl⟩ := continues_of_completes (completes_of_accepts h)
    exact ⟨⟨notes, parts⟩, rfl⟩
  · rintro ⟨program, rfl⟩
    exact (accepts_notes program.opening _).mpr (accepts_parts program.parts rfl)

end Shape

end Shorthand
