import Mathlib.Data.List.Forall2
import Shorthand.Proofs.Syntax.Parsed
import Shorthand.Proofs.Syntax.RoundTrip

/-!
# Lines cut into the pieces of their statements

The dispatcher takes one statement after the other off the front of a line.  `cut` follows it and
keeps the tokens of each statement: those of the candidate, those that the statement is read from,
and its terminator.  What starts no statement at the end of the line is left over.  Together these
are all the tokens of the line (`flatten_cut`), and each piece is dispatched by itself as its
statement (`forall₂_cut`).

## Strategy

A line either starts no statement at all, or there is a first candidate that does
(`opens_or_startsNone`).  What the dispatcher does with the line is decided there: it reads the
statement off the segment after the candidate and goes on with what follows
(`Opens.dispatchOnto_eq`), and so does the cut.  Everything about a whole line is proved along the
statements from this one step (`line_induction`).

A piece by itself is dispatched as it is on the line, since a segment without what follows it is the
same segment (`segment_taken`).
-/

namespace Shorthand

variable {handlers : List Handler} {before front tokens tail : List Token} {tok : Token}
  {handler : Handler} {statement : Statement} {statements : List Statement}

/-! ## Segments -/

/-- Tokens inside a statement and a terminator after them are its segment, whatever follows. -/
theorem Segment.upTo_append_mark {terminators : List String} {body : List Token} {mark : Token}
    (hbody : ∀ tok ∈ body, endsStatement terminators tok = false) (hkind : mark.kind = .op)
    (hmem : mark.text ∈ terminators) (rest : List Token) :
    upTo terminators (body ++ mark :: rest) = ⟨body, rest, some mark.text⟩ := by
  rw [upTo_append hbody]
  simp [upTo, endsStatement, hkind, hmem]

/-- Tokens inside a statement are the whole segment if nothing follows. -/
theorem Segment.upTo_of_inside {terminators : List String} {body : List Token}
    (hbody : ∀ tok ∈ body, endsStatement terminators tok = false) :
    upTo terminators body = ⟨body, [], none⟩ := by
  simpa [upTo] using upTo_append hbody []

/-- Tokens inside a statement are its segment if a comment follows, or nothing. -/
theorem Segment.upTo_append_of_comment {terminators : List String} {body rest : List Token}
    (hbody : ∀ tok ∈ body, endsStatement terminators tok = false)
    (hrest : ∀ tok ∈ rest.head?, tok.kind = .comment) :
    upTo terminators (body ++ rest) = ⟨body, rest, none⟩ := by
  rw [upTo_append hbody]
  cases rest with
  | nil => simp [upTo]
  | cons comment rest =>
      have hkind := hrest comment rfl
      simp [upTo, endsStatement, hkind]

/-- A segment ends at a comment or with the tokens, or else with a terminator. -/
theorem Segment.cases_upTo (terminators : List String) (tokens : List Token) :
    ∃ body, (∀ tok ∈ body, endsStatement terminators tok = false) ∧
      ((∃ rest, tokens = body ++ rest ∧ ∀ tok ∈ rest.head?, tok.kind = .comment) ∨
        ∃ mark rest, tokens = body ++ mark :: rest ∧ mark.kind = .op ∧
          mark.text ∈ terminators) := by
  induction tokens with
  | nil => exact ⟨[], nofun, .inl ⟨[], rfl, nofun⟩⟩
  | cons tok tokens ih =>
      cases hends : endsStatement terminators tok with
      | true =>
          refine ⟨[], nofun, ?_⟩
          by_cases hkind : tok.kind = .comment
          · exact .inl ⟨tok :: tokens, rfl, by simpa using hkind⟩
          · simp only [endsStatement, beq_eq_false_iff_ne.mpr hkind, Bool.false_or,
              Bool.and_eq_true, beq_iff_eq, List.contains_iff_mem] at hends
            exact .inr ⟨tok, tokens, rfl, hends⟩
      | false =>
          obtain ⟨body, hbody, hcases⟩ := ih
          refine ⟨tok :: body, List.forall_mem_cons.mpr ⟨hends, hbody⟩, ?_⟩
          rcases hcases with ⟨rest, rfl, hrest⟩ | ⟨mark, rest, rfl, hmark⟩
          · exact .inl ⟨rest, rfl, hrest⟩
          · exact .inr ⟨mark, rest, rfl, hmark⟩

/-- The tokens after the candidate that a statement of the family takes, with its terminator. -/
def Handler.taken (handler : Handler) (tokens : List Token) : List Token :=
  tokens.take (tokens.length - (handler.segment tokens).rest.length)

theorem taken_append {taken rest : List Token} (h : (handler.segment (taken ++ rest)).rest = rest) :
    handler.taken (taken ++ rest) = taken := by
  rw [Handler.taken, h, List.length_append, Nat.add_sub_cancel, List.take_left' rfl]

theorem taken_append_rest (handler : Handler) (tokens : List Token) :
    handler.taken tokens ++ (handler.segment tokens).rest = tokens := by
  obtain ⟨taken, htaken⟩ := rest_segment_suffix handler tokens
  have hrest : (handler.segment (taken ++ (handler.segment tokens).rest)).rest =
      (handler.segment tokens).rest := by rw [htaken]
  have hsame := taken_append hrest
  rw [htaken] at hsame
  rw [hsame, htaken]

/-- Without what follows on a statement its segment is the same. -/
theorem segment_taken (handler : Handler) (tokens : List Token) :
    handler.segment (handler.taken tokens) =
      ⟨(handler.segment tokens).body, [], (handler.segment tokens).terminator?⟩ := by
  have hupTo : ∀ terminators : List String,
      (∀ tokens, handler.segment tokens = .upTo terminators tokens) →
        handler.segment (handler.taken tokens) =
          ⟨(handler.segment tokens).body, [], (handler.segment tokens).terminator?⟩ := by
    intro terminators hfamily
    obtain ⟨body, hbody, ⟨rest, rfl, hrest⟩ | ⟨mark, rest, rfl, hkind, hmem⟩⟩ :=
      Segment.cases_upTo terminators tokens
    · have hsegment := Segment.upTo_append_of_comment hbody hrest
      have halone := Segment.upTo_of_inside hbody
      rw [← hfamily] at hsegment halone
      rw [taken_append (by rw [hsegment]), hsegment]
      exact halone
    · have hsegment := Segment.upTo_append_mark hbody hkind hmem
      simp only [← hfamily] at hsegment
      have htaken : handler.taken (body ++ mark :: rest) = body ++ [mark] := by
        rw [List.append_cons]
        exact taken_append (by rw [← List.append_cons, hsegment])
      rw [htaken, hsegment, hsegment]
  cases handler with
  | comment => simp [Handler.taken, Handler.segment]
  | compile | main | branch | otherwise | loop | close | function =>
      exact hupTo [";", ":"] fun _ => rfl
  | register | declaration | call | store => exact hupTo [";"] fun _ => rfl

/-! ## The first candidate that starts a statement -/

/-- The tokens `front` after `before` start no statement, but with `tok` they start one of the
family. -/
inductive Opens (handlers : List Handler) :
    (before front : List Token) → (tok : Token) → (handler : Handler) → Prop where
  | here {before : List Token} {tok : Token} {handler : Handler}
      (h : handlers.find? (Handler.starts ⟨before, tok⟩) = some handler) :
      Opens handlers before [] tok handler
  | later {before front : List Token} {first tok : Token} {handler : Handler}
      (hnone : handlers.find? (Handler.starts ⟨before, first⟩) = none)
      (h : Opens handlers (first :: before) front tok handler) :
      Opens handlers before (first :: front) tok handler

/-- No candidate of the tokens starts a statement. -/
inductive StartsNone (handlers : List Handler) : (before tokens : List Token) → Prop where
  | nil {before : List Token} : StartsNone handlers before []
  | cons {before tokens : List Token} {first : Token}
      (hnone : handlers.find? (Handler.starts ⟨before, first⟩) = none)
      (h : StartsNone handlers (first :: before) tokens) :
      StartsNone handlers before (first :: tokens)

/-- A line starts no statement, or there is a first candidate that does. -/
theorem opens_or_startsNone (handlers : List Handler) (before tokens : List Token) :
    StartsNone handlers before tokens ∨ ∃ front tok tail handler,
      tokens = front ++ tok :: tail ∧ Opens handlers before front tok handler := by
  induction tokens generalizing before with
  | nil => exact .inl .nil
  | cons first tokens ih =>
      cases hfind : handlers.find? (Handler.starts ⟨before, first⟩) with
      | some handler => exact .inr ⟨[], first, tokens, handler, rfl, .here hfind⟩
      | none =>
          rcases ih (first :: before) with hnone | ⟨front, tok, tail, handler, rfl, hopens⟩
          · exact .inl (.cons hfind hnone)
          · exact .inr ⟨first :: front, tok, tail, handler, rfl, .later hfind hopens⟩

/-- The candidate that opens a statement is one of its family. -/
theorem Opens.starts (h : Opens handlers before front tok handler) :
    handler.starts ⟨front.reverse ++ before, tok⟩ = true := by
  induction h with
  | here h => exact List.find?_some h
  | later _ _ ih => simpa using ih

/-- The statements that were read before are only kept. -/
theorem dispatchOnto_append_done (handlers : List Handler) (done later : List Statement)
    (before tokens : List Token) :
    dispatchOnto handlers (later ++ done) before tokens =
      (dispatchOnto handlers later before tokens).map (done.reverse ++ ·) := by
  fun_induction dispatchOnto handlers later before tokens with
  | case1 later before =>
      rw [dispatchOnto, List.reverse_append]
      rfl
  | case2 later before tok rest hnone ih =>
      rw [dispatchOnto, hnone]
      exact ih
  | case3 later before tok rest handler hfind problem hread =>
      rw [dispatchOnto, hfind]
      dsimp only
      rw [hread]
      rfl
  | case4 later before tok rest handler hfind statement hread ih =>
      rw [dispatchOnto, hfind]
      dsimp only
      rw [hread]
      exact ih

/-- A line that starts no statement has none. -/
theorem StartsNone.dispatchOnto_eq (h : StartsNone handlers before tokens) :
    dispatchOnto handlers [] before tokens = .ok [] := by
  induction h with
  | nil => rw [dispatchOnto, List.reverse_nil]
  | cons hnone _ ih => rwa [dispatchOnto, hnone]

/-- What the dispatcher does with a line is decided by the first candidate that starts a
statement. -/
theorem Opens.dispatchOnto_eq (h : Opens handlers before front tok handler) (tail : List Token) :
    dispatchOnto handlers [] before (front ++ tok :: tail) =
      match handler.read ⟨front.reverse ++ before, tok⟩ (handler.segment tail) with
      | .error problem => .error problem
      | .ok statement => (dispatch handlers (handler.segment tail).rest).map (statement :: ·) := by
  induction h with
  | @here before tok handler h =>
      rw [List.nil_append, dispatchOnto, h, List.reverse_nil, List.nil_append]
      dsimp only
      cases handler.read ⟨before, tok⟩ (handler.segment tail) with
      | error problem => rfl
      | ok statement => exact dispatchOnto_append_done handlers [statement] [] [] _
  | later hnone _ ih =>
      rw [List.cons_append, dispatchOnto, hnone]
      simpa using ih

/-! ## Cutting a line -/

/-- A line by the pieces that its statements take, and what is left over at its end. -/
structure Cut where
  pieces : List (List Token)
  leftover : List Token
deriving DecidableEq

/-- Goes on with cutting a line; `before` are the tokens that have started no statement yet, the
nearest first. -/
def cutOnto (handlers : List Handler) (before : List Token) : List Token → Cut
  | [] => ⟨[], before.reverse⟩
  | tok :: rest =>
      match handlers.find? (Handler.starts ⟨before, tok⟩) with
      | none => cutOnto handlers (tok :: before) rest
      | some handler =>
          let later := cutOnto handlers [] (handler.segment rest).rest
          ⟨(before.reverse ++ tok :: handler.taken rest) :: later.pieces, later.leftover⟩
termination_by tokens => tokens.length
decreasing_by
  · simp
  · have := handler.length_rest_segment_le rest
    simp
    omega

/-- The pieces of a line. -/
def cut (handlers : List Handler) (tokens : List Token) : Cut := cutOnto handlers [] tokens

theorem StartsNone.cutOnto_eq (h : StartsNone handlers before tokens) :
    cutOnto handlers before tokens = ⟨[], before.reverse ++ tokens⟩ := by
  induction h with
  | nil => rw [cutOnto, List.append_nil]
  | cons hnone _ ih =>
      rw [cutOnto, hnone]
      simpa using ih

theorem Opens.cutOnto_eq (h : Opens handlers before front tok handler) (tail : List Token) :
    cutOnto handlers before (front ++ tok :: tail) =
      ⟨(before.reverse ++ front ++ tok :: handler.taken tail) ::
        (cut handlers (handler.segment tail).rest).pieces,
        (cut handlers (handler.segment tail).rest).leftover⟩ := by
  induction h with
  | here h =>
      rw [List.nil_append, cutOnto, h, List.append_nil]
      rfl
  | later hnone _ ih =>
      rw [List.cons_append, cutOnto, hnone]
      simpa using ih

/-- What holds of lines that start no statement, and of lines whose rest after the first statement
it holds of, holds of all lines. -/
theorem line_induction {motive : List Token → Prop} (handlers : List Handler)
    (none : ∀ tokens, StartsNone handlers [] tokens → motive tokens)
    (some : ∀ front tok tail handler, Opens handlers [] front tok handler →
      motive (handler.segment tail).rest → motive (front ++ tok :: tail))
    (tokens : List Token) : motive tokens := by
  induction hlength : tokens.length using Nat.strongRecOn generalizing tokens with
  | ind length ih =>
      rcases opens_or_startsNone handlers [] tokens with
        hnone | ⟨front, tok, tail, handler, rfl, hopens⟩
      · exact none tokens hnone
      · refine some front tok tail handler hopens (ih _ ?_ _ rfl)
        have := handler.length_rest_segment_le tail
        rw [← hlength, List.length_append, List.length_cons]
        omega

/-- The pieces and what is left over are the tokens of the line. -/
theorem flatten_cut (handlers : List Handler) (tokens : List Token) :
    (cut handlers tokens).pieces.flatten ++ (cut handlers tokens).leftover = tokens := by
  induction tokens using line_induction handlers with
  | none tokens hnone =>
      rw [cut, hnone.cutOnto_eq]
      rfl
  | some front tok tail handler hopens ih =>
      rw [cut, hopens.cutOnto_eq, List.flatten_cons, List.append_assoc, ih]
      simp [taken_append_rest]

/-- What is left over starts no statement. -/
theorem startsNone_leftover (handlers : List Handler) (tokens : List Token) :
    StartsNone handlers [] (cut handlers tokens).leftover := by
  induction tokens using line_induction handlers with
  | none tokens hnone =>
      rw [cut, hnone.cutOnto_eq]
      exact hnone
  | some front tok tail handler hopens ih =>
      rw [cut, hopens.cutOnto_eq]
      exact ih

/-- The tokens are those of a single statement, all of them. -/
structure IsStatement (handlers : List Handler) (tokens : List Token) (statement : Statement) :
    Prop where
  dispatched : dispatch handlers tokens = .ok [statement]
  whole : cut handlers tokens = ⟨[tokens], []⟩

/-- A candidate, with the tokens that a statement of its family takes, is the statement. -/
theorem Opens.isStatement (h : Opens handlers [] front tok handler)
    (hread : handler.read ⟨front.reverse, tok⟩ (handler.segment tail) = .ok statement) :
    IsStatement handlers (front ++ tok :: handler.taken tail) statement := by
  have hsegment := segment_taken handler tail
  have hnil : StartsNone handlers [] [] := .nil
  constructor
  · rw [dispatch, h.dispatchOnto_eq, hsegment, List.append_nil, read_of_rest, hread, dispatch]
    dsimp only
    rw [hnil.dispatchOnto_eq]
    rfl
  · have htaken : handler.taken (handler.taken tail) = handler.taken tail := by
      have happend := taken_append_rest handler (handler.taken tail)
      rwa [hsegment, List.append_nil] at happend
    rw [cut, h.cutOnto_eq, hsegment, htaken, cut, hnil.cutOnto_eq]
    simp

/-- A single statement is opened by a candidate, and the segment after it leaves nothing. -/
theorem isStatement_iff_opens : IsStatement handlers tokens statement ↔
    ∃ front tok tail handler, tokens = front ++ tok :: tail ∧ Opens handlers [] front tok handler ∧
      handler.read ⟨front.reverse, tok⟩ (handler.segment tail) = .ok statement ∧
      (handler.segment tail).rest = [] := by
  constructor
  · rintro ⟨hdispatched, hwhole⟩
    rcases opens_or_startsNone handlers [] tokens with
      hnone | ⟨front, tok, tail, handler, rfl, hopens⟩
    · rw [dispatch, hnone.dispatchOnto_eq] at hdispatched
      cases hdispatched
    · rw [dispatch, hopens.dispatchOnto_eq, List.append_nil] at hdispatched
      rw [cut, hopens.cutOnto_eq, Cut.mk.injEq, List.cons.injEq] at hwhole
      obtain ⟨⟨-, hpieces⟩, hleftover⟩ := hwhole
      have hrest : (handler.segment tail).rest = [] := by
        rw [← flatten_cut handlers (handler.segment tail).rest, hpieces, hleftover]
        rfl
      refine ⟨front, tok, tail, handler, rfl, hopens, ?_, hrest⟩
      cases hread : handler.read ⟨front.reverse, tok⟩ (handler.segment tail) with
      | error problem =>
          rw [hread] at hdispatched
          cases hdispatched
      | ok result =>
          have hnil : StartsNone handlers [] [] := .nil
          rw [hread, hrest, dispatch, hnil.dispatchOnto_eq] at hdispatched
          cases hdispatched
          rfl
  · rintro ⟨front, tok, tail, handler, rfl, hopens, hread, hrest⟩
    have htaken := taken_append_rest handler tail
    rw [hrest, List.append_nil] at htaken
    rw [← htaken]
    exact hopens.isStatement hread

/-- Each piece of a line is a statement by itself, the one that was read there. -/
theorem forall₂_cut (h : dispatch handlers tokens = .ok statements) :
    List.Forall₂ (IsStatement handlers) (cut handlers tokens).pieces statements := by
  induction tokens using line_induction handlers generalizing statements with
  | none tokens hnone =>
      rw [dispatch, hnone.dispatchOnto_eq] at h
      cases h
      rw [cut, hnone.cutOnto_eq]
      exact .nil
  | some front tok tail handler hopens ih =>
      rw [dispatch, hopens.dispatchOnto_eq, List.append_nil] at h
      rw [cut, hopens.cutOnto_eq]
      cases hread : handler.read ⟨front.reverse, tok⟩ (handler.segment tail) with
      | error problem =>
          rw [hread] at h
          cases h
      | ok statement =>
          rw [hread] at h
          dsimp only at h
          cases hlater : dispatch handlers (handler.segment tail).rest with
          | error problem =>
              rw [hlater] at h
              cases h
          | ok later =>
              rw [hlater] at h
              cases h
              exact .cons (hopens.isStatement hread) (ih hlater)

end Shorthand
