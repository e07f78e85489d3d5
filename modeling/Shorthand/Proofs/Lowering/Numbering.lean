import Shorthand.Proofs.Flow.Constructs
import Shorthand.Proofs.Lowering.Blocks
import Shorthand.Proofs.Syntax.Parsed

/-!
# Labels of a compiled program

The labels of a body start with its name, and a label can be read back (`Label.text_inj`), so bodies
with different names have no label in common.  The names of functions differ from each other, and
from the name of the program proper because that is a keyword.  Hence all labels of all bodies
differ, and every body starts to number its constructs at one: no number was given out under its
name before (`Lowers.count_eq_zero`).

With what is known of the code of one flow, every branch goes to a label of the same body
(`resolves_of_mem_bodies`), and the constructs of a block are numbered in the order of the source
(`exists_places_of_lower`).
-/

namespace Shorthand

open Lowering

/-! ## Names of bodies -/

/-- The body is the program proper, or its name is no keyword. -/
def Lowering.BodyKind.IsNamed : BodyKind → Prop
  | main => True
  | function name => isNameText name = true

/-- A body is known by its name. -/
theorem Lowering.BodyKind.IsNamed.eq_of_name_eq {kind kind' : BodyKind} (h : kind.IsNamed)
    (h' : kind'.IsNamed) (hname : kind.name = kind'.name) : kind = kind' := by
  have hmain : isNameText "main" = false := by decide +kernel
  cases kind with
  | main =>
      cases kind' with
      | main => rfl
      | function name =>
          obtain rfl : "main" = name := hname
          rw [IsNamed, hmain] at h'
          cases h'
  | function name =>
      cases kind' with
      | main =>
          obtain rfl : name = "main" := hname
          rw [IsNamed, hmain] at h
          cases h
      | function name' => exact congrArg BodyKind.function hname

theorem isNamed_of_head_mem {handlers : List Handler} {source : Source} {kind : BodyKind}
    (hmem : kind.head ∈
      ((parse handlers source).statements.map Located.statement).filterMap Statement.head?) :
    kind.IsNamed := by
  cases kind with
  | main => trivial
  | function name =>
      obtain ⟨statement, hstatement, hhead⟩ := List.mem_filterMap.mp hmem
      obtain ⟨head, colon⟩ | _ := statement <;> cases hhead
      exact isNameText_of_mem_parse hstatement

/-! ## Labels of bodies -/

section bodies

variable [Interpreter] {predefined : Constants} {statements : List Located} {listing : Listing}
  {events : List Event} {kind : BodyKind} {code : List Leaf}

private theorem label?_of_selected {constants : Constants} (statement : Statement) (leaf : Leaf)
    (h : selected constants statement = some leaf) : leaf.label? = none := by
  obtain ⟨mnemonic, operands, rfl⟩ := eq_instr_of_selected h
  rfl

private theorem target?_of_selected {constants : Constants} (statement : Statement) (leaf : Leaf)
    (h : selected constants statement = some leaf) : leaf.target? = none := by
  obtain ⟨mnemonic, operands, rfl⟩ := eq_instr_of_selected h
  rfl

theorem nodup_labelsOf_of_mem_bodies
    (hlower : lower predefined statements = .ok (listing, events))
    (hmem : (kind, code) ∈ listing.bodies) : (labelsOf code).Nodup := by
  obtain ⟨before, colon, flow, after, first, -, -, -, -, rfl⟩ :=
    exists_block_of_mem_bodies hlower hmem
  exact nodup_labelsOf_code label?_of_selected ..

/-- The labels of a body are made from its name. -/
theorem exists_label_of_mem_bodies (hlower : lower predefined statements = .ok (listing, events))
    (hmem : (kind, code) ∈ listing.bodies) {text : String} (htext : text ∈ labelsOf code) :
    ∃ label : Label, label.text kind.name = text := by
  obtain ⟨before, colon, flow, after, first, -, -, -, -, rfl⟩ :=
    exists_block_of_mem_bodies hlower hmem
  rw [(labelsOf_code_perm label?_of_selected kind.name flow _ _).mem_iff] at htext
  obtain ⟨label, -, hlabel⟩ := List.mem_map.mp htext
  exact ⟨label, hlabel⟩

theorem resolves_of_mem_bodies (hlower : lower predefined statements = .ok (listing, events))
    (hmem : (kind, code) ∈ listing.bodies) : Resolves code [] := by
  obtain ⟨before, colon, flow, after, first, -, -, -, -, rfl⟩ :=
    exists_block_of_mem_bodies hlower hmem
  exact resolves_code target?_of_selected kind.name flow _ _

/-- Bodies with different names have different labels. -/
theorem nodup_labels_of_lower (hlower : lower predefined statements = .ok (listing, events))
    (hnamed : ∀ body ∈ listing.bodies, body.1.IsNamed) :
    (listing.bodies.flatMap fun body => labelsOf body.2).Nodup := by
  rw [List.nodup_flatMap]
  refine ⟨fun body hbody => nodup_labelsOf_of_mem_bodies hlower hbody, ?_⟩
  have hkinds := List.pairwise_map.mp (nodup_kinds_of_lower hlower)
  refine hkinds.imp_of_mem fun {body body'} hbody hbody' hne => ?_
  intro text htext htext'
  obtain ⟨label, hlabel⟩ := exists_label_of_mem_bodies hlower hbody htext
  obtain ⟨label', hlabel'⟩ := exists_label_of_mem_bodies hlower hbody' htext'
  obtain ⟨hname, -⟩ := Label.text_inj.mp (hlabel.trans hlabel'.symm)
  exact hne ((hnamed body hbody).eq_of_name_eq (hnamed body' hbody') hname)

/-- A body has a name that no body before it has. -/
theorem name_ne_of_lower {colon : Bool} {before rest : List Statement}
    (hlower : lower predefined statements = .ok (listing, events))
    (hsplit : statements.map Located.statement = before ++ .block kind.head colon :: rest)
    (hnamed : ∀ kind : BodyKind,
      kind.head ∈ (statements.map Located.statement).filterMap Statement.head? → kind.IsNamed)
    {kind' : BodyKind} (hmem : kind'.head ∈ before.filterMap Statement.head?) :
    kind'.name ≠ kind.name := by
  intro hname
  have hkind : kind.IsNamed := hnamed kind (by
    rw [hsplit]
    simp [Statement.head?])
  have hkind' : kind'.IsNamed := hnamed kind' (by
    rw [hsplit, List.filterMap_append]
    exact List.mem_append_left _ hmem)
  obtain rfl := hkind'.eq_of_name_eq hkind hname
  exact head_notMem_of_lower hlower hsplit hmem

/-- A construct has its code in the body, and its number counts from the head of the block. -/
theorem exists_places_of_lower {colon : Bool} {before inner after : List Statement}
    {statement : Statement} (hlower : lower predefined statements = .ok (listing, events))
    (hsplit : statements.map Located.statement =
      before ++ .block kind.head colon :: (inner ++ statement :: after))
    (hinner : inner.filterMap Statement.head? = []) (hconstruct : statement.isConstruct = true)
    (hnamed : ∀ kind : BodyKind,
      kind.head ∈ (statements.map Located.statement).filterMap Statement.head? → kind.IsNamed) :
    ∃ code piece, (kind, code) ∈ listing.bodies ∧ piece <:+: code ∧
      Places (selected (constantsAfter predefined before)) kind.name 0 0 inner statement after
        piece := by
  have hstatement : statement.isInner = true := by
    cases statement with
    | branch | loop | otherwise => rfl
    | _ => cases hconstruct
  obtain ⟨flow, later, rest, nodes, first, hflow, rfl, hbefore, hnodes, -, hcode⟩ :=
    listing_block_of_inner hlower hsplit hinner hstatement
  have hnew : ∀ kind' : BodyKind, kind'.head ∈ before.filterMap Statement.head? →
      kind'.name ≠ kind.name := fun _ hmem => name_ne_of_lower hlower hsplit hnamed hmem
  rw [hbefore.count_eq_zero hnew, hbefore.count_eq_zero hnew] at hcode
  obtain ⟨piece, hpiece, hplaces⟩ := exists_places
    (selected (constantsAfter predefined before)) kind.name flow 0 0 hflow hconstruct
  rw [← hcode] at hpiece
  exact ⟨_, piece, mem_bodies_of_body? hnodes, hpiece, hplaces.around [] rest⟩

end bodies

end Shorthand
