import Shorthand.Proofs.Syntax.Grammar

/-!
# Parts with a mark between them

Initial values have commas between them, and the comparisons of a condition have `&&` and `||`.
`Separated` says of tokens that they are parts of one form, at least one of them, with the mark
between any two.  Splitting the tokens at the mark and reading the parts finds out whether they are,
and what the parts stand for (`mapM_splitAtOp_ok_iff`).

## Strategy

What the tokens are split into are parts without the mark (`separated_splitAtOp`), so parts that are
read can be put together again.  In the other direction, a part that has the form holds no mark, and
so it is one of those that the tokens are split into.
-/

namespace Shorthand

variable {α : Type} {Part : List Token → α → Prop} {symbol : String} {tokens : List Token}
  {values : List α}

/-- The tokens of parts of a form, with the mark between any two of them. -/
inductive Separated {α : Type} (Part : List Token → α → Prop) (symbol : String) :
    List Token → List α → Prop where
  | last {tokens : List Token} {value : α} (h : Part tokens value) :
      Separated Part symbol tokens [value]
  | cons {mark : Token} {tokens rest : List Token} {value : α} {values : List α}
      (h : Part tokens value) (hmark : mark.isOp symbol = true)
      (hrest : Separated Part symbol rest values) :
      Separated Part symbol (tokens ++ mark :: rest) (value :: values)

/-- A mark that stands in no part and is not the one between the parts stands nowhere. -/
theorem Separated.lacks {other : String} (h : Separated Part symbol tokens values)
    (hpart : ∀ part value, Part part value → ∀ tok ∈ part, tok.isOp other = false)
    (hne : symbol ≠ other) : ∀ tok ∈ tokens, tok.isOp other = false := by
  induction h with
  | last h => exact hpart _ _ h
  | @cons mark tokens rest value values h hmark _ ih =>
      intro tok htok
      rcases List.mem_append.mp htok with hmem | hmem
      · exact hpart _ _ h tok hmem
      rcases List.mem_cons.mp hmem with rfl | hmem
      · rw [Token.isOp_iff] at hmark
        simp [Token.isOp, hmark, hne]
      · exact ih tok hmem

/-- A part of the tokens between two marks. -/
def IsPiece (symbol : String) (tokens piece : List Token) : Prop :=
  tokens = piece ∧ ∀ tok ∈ tokens, tok.isOp symbol = false

/-- What tokens are split into are the pieces between the marks. -/
theorem separated_splitAtOp (symbol : String) (tokens : List Token) :
    Separated (IsPiece symbol) symbol tokens (splitAtOp symbol tokens) := by
  induction tokens with
  | nil => exact .last ⟨rfl, nofun⟩
  | cons tok tokens ih =>
      cases hmark : tok.isOp symbol with
      | true =>
          have hempty : IsPiece symbol [] [] := ⟨rfl, nofun⟩
          rw [splitAtOp, if_pos hmark]
          exact .cons hempty hmark ih
      | false =>
          -- the token belongs to the first piece of what follows
          rw [splitAtOp, hmark]
          generalize splitAtOp symbol tokens = pieces at ih
          have hpiece : ∀ {front piece}, IsPiece symbol front piece →
              IsPiece symbol (tok :: front) (tok :: piece) :=
            fun h => ⟨congrArg (tok :: ·) h.1, List.forall_mem_cons.mpr ⟨hmark, h.2⟩⟩
          cases ih with
          | last h => exact .last (hpiece h)
          | cons h hnext hrest =>
              rw [← List.cons_append]
              exact .cons (hpiece h) hnext hrest

section read

variable {read : List Token → Except Problem α}

/-- Pieces that are read as parts of the form are parts of the form. -/
theorem separated_of_mapM {pieces : List (List Token)}
    (hsplit : Separated (IsPiece symbol) symbol tokens pieces)
    (hread : ∀ part value, part ⊆ tokens → read part = .ok value → Part part value)
    (hvalues : pieces.mapM read = .ok values) : Separated Part symbol tokens values := by
  induction hsplit generalizing values with
  | @last tokens piece h =>
      obtain ⟨rfl, -⟩ := h
      obtain ⟨value, hfirst, hlater⟩ := bind_eq_ok_iff.mp (List.mapM_cons.symm.trans hvalues)
      cases hlater
      exact .last (hread _ _ (List.Subset.refl _) hfirst)
  | @cons mark tokens rest piece pieces h hmark _ ih =>
      obtain ⟨rfl, -⟩ := h
      obtain ⟨value, hfirst, hothers⟩ := bind_eq_ok_iff.mp (List.mapM_cons.symm.trans hvalues)
      obtain ⟨later, hlater, heq⟩ := bind_eq_ok_iff.mp hothers
      cases heq
      refine .cons (hread _ _ (List.subset_append_left _ _) hfirst) hmark (ih ?_ hlater)
      exact fun part value hsub => hread part value fun tok htok => by simp [hsub htok]

/-- Parts of the form are the pieces between the marks, since they hold no mark. -/
theorem mapM_of_separated (hpart : ∀ part value, Part part value →
      ∀ tok ∈ part, tok.isOp symbol = false)
    (h : Separated Part symbol tokens values)
    (hread : ∀ part value, part ⊆ tokens → Part part value → read part = .ok value) :
    (splitAtOp symbol tokens).mapM read = .ok values := by
  induction h with
  | last h =>
      rw [splitAtOp_of_forall (hpart _ _ h), List.mapM_cons, hread _ _ (List.Subset.refl _) h]
      rfl
  | @cons mark tokens rest value values h hmark _ ih =>
      have hlater := ih fun part value hsub =>
        hread part value fun tok htok => by simp [hsub htok]
      rw [splitAtOp_append hmark, splitAtOp_of_forall (hpart _ _ h), List.singleton_append,
        List.mapM_cons, hread _ _ (List.subset_append_left _ _) h, hlater]
      rfl

/-- The parts between the marks are read if and only if they have the form. -/
theorem mapM_splitAtOp_ok_iff
    (hpart : ∀ part value, Part part value → ∀ tok ∈ part, tok.isOp symbol = false)
    (hread : ∀ part value, part ⊆ tokens → (read part = .ok value ↔ Part part value)) :
    (splitAtOp symbol tokens).mapM read = .ok values ↔ Separated Part symbol tokens values :=
  ⟨separated_of_mapM (separated_splitAtOp symbol tokens) fun part value hsub =>
      (hread part value hsub).mp,
    fun h => mapM_of_separated hpart h fun part value hsub => (hread part value hsub).mpr⟩

end read

end Shorthand
