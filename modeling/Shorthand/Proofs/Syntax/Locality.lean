import Shorthand.Proofs.Syntax.Comments
import Shorthand.Proofs.Syntax.Pieces

/-!
# Statements do not depend on what follows them

The tokens of one statement can stand before any others: the statement is read as before, and the
others are dispatched as if they stood alone, whatever becomes of them
(`dispatch_append_statement`).  If the statement has no terminator of its own, a semicolon separates
it from what follows, and so does a comment.

## Strategy

A statement that takes all the tokens is opened by some candidate, and the segment after it leaves
nothing (`isStatement_iff_opens`).  So it ends with the tokens or with a terminator, and the last
token tells which, since no candidate ends in one (`isEndedBy_of_starts`).  In either case more
tokens do not change the segment, and a semicolon at its end is never looked at (`read_semicolon`).
-/

namespace Shorthand

variable {handlers : List Handler} {first rest front tail : List Token} {tok : Token}
  {c : Candidate} {handler : Handler} {statement : Statement}

/-! ## Terminators -/

namespace Statement

/-- Whether the statement is the head of a block or of a construct, or closes one. -/
def isHead : Statement → Bool
  | block _ _ | branch _ | otherwise | loop _ | close => true
  | _ => false

/-- The marks that end the statement. -/
def terminators (statement : Statement) : List String :=
  if statement.isHead then [";", ":"] else [";"]

/-- Whether the token ends the statement: a semicolon, or a colon after a head. -/
def isEndedBy (statement : Statement) (tok : Token) : Bool :=
  tok.isOp ";" || (statement.isHead && tok.isOp ":")

theorem isEndedBy_iff : statement.isEndedBy tok = true ↔
    tok.kind = .op ∧ tok.text ∈ statement.terminators := by
  cases hhead : statement.isHead <;>
    simp [isEndedBy, terminators, hhead, Token.isOp, ← and_or_left]

/-- Whether the tokens end with a terminator of the statement. -/
def isClosedBy (statement : Statement) (tokens : List Token) : Bool :=
  tokens.getLast?.any statement.isEndedBy

theorem semicolon_mem_terminators (statement : Statement) : ";" ∈ statement.terminators := by
  unfold terminators
  split <;> simp

end Statement

/-- A statement that is no comment ends like all statements of its family. -/
theorem segment_eq_upTo (hfamily : statement.family = handler) (hne : handler ≠ .comment)
    (tokens : List Token) : handler.segment tokens = .upTo statement.terminators tokens := by
  subst hfamily
  cases statement with
  | block head colon => cases head <;> rfl
  | comment text => exact absurd rfl hne
  | _ => rfl

/-- No candidate that starts a statement ends in a terminator. -/
theorem isEndedBy_of_starts (h : handler.starts c = true) :
    statement.isEndedBy c.last = false := by
  rw [Bool.eq_false_iff]
  intro hends
  obtain ⟨hkind, hmem⟩ := Statement.isEndedBy_iff.mp hends
  have htext : c.last.text = ";" ∨ c.last.text = ":" := by
    unfold Statement.terminators at hmem
    split at hmem <;> simp_all
  rcases htext with htext | htext <;>
    cases handler <;>
      simp [Handler.starts, Candidate.isWord, Token.isRegister, Token.is, hkind, htext] at h

/-- Only a colon is looked at in a terminator. -/
theorem read_semicolon (handler : Handler) (c : Candidate) (body rest : List Token) :
    handler.read c ⟨body, rest, some ";"⟩ = handler.read c ⟨body, [], none⟩ := by
  cases handler <;> rfl

/-! ## Single statements -/

/-- A token inside the statement does not end it. -/
theorem isEndedBy_of_inside (h : endsStatement statement.terminators tok = false) :
    statement.isEndedBy tok = false := by
  rw [Bool.eq_false_iff]
  intro hends
  obtain ⟨hkind, hmem⟩ := Statement.isEndedBy_iff.mp hends
  simp [endsStatement, hkind, hmem] at h

/-- The tokens after the candidate of a single statement are all inside it, or all but a terminator
at the end. -/
theorem inside_or_terminated
    (hends : ∀ tokens, handler.segment tokens = .upTo statement.terminators tokens)
    (hplain : ∀ tok ∈ tail, tok.kind ≠ .comment) (hrest : (handler.segment tail).rest = []) :
    (∀ tok ∈ tail, endsStatement statement.terminators tok = false) ∨
      ∃ body mark, tail = body ++ [mark] ∧ statement.isEndedBy mark = true ∧
        ∀ tok ∈ body, endsStatement statement.terminators tok = false := by
  rw [hends] at hrest
  obtain ⟨body, hbody, ⟨rest, rfl, hcomment⟩ | ⟨mark, rest, rfl, hkind, hmem⟩⟩ :=
    Segment.cases_upTo statement.terminators tail
  · rw [Segment.upTo_append_of_comment hbody hcomment] at hrest
    obtain rfl : rest = [] := hrest
    rw [List.append_nil]
    exact .inl hbody
  · rw [Segment.upTo_append_mark hbody hkind hmem] at hrest
    obtain rfl : rest = [] := hrest
    exact .inr ⟨body, mark, rfl, Statement.isEndedBy_iff.mpr ⟨hkind, hmem⟩, hbody⟩

theorem isClosedBy_concat (front : List Token) (last : Token) :
    statement.isClosedBy (front ++ [last]) = statement.isEndedBy last := by
  simp [Statement.isClosedBy]

theorem isClosedBy_of_inside (front : List Token) (htok : statement.isEndedBy tok = false)
    (hinside : ∀ tok ∈ tail, endsStatement statement.terminators tok = false) :
    statement.isClosedBy (front ++ tok :: tail) = false := by
  rcases List.eq_nil_or_concat tail with rfl | ⟨body, last, rfl⟩
  · rw [isClosedBy_concat, htok]
  · rw [List.concat_eq_append, ← List.cons_append, ← List.append_assoc, isClosedBy_concat]
    exact isEndedBy_of_inside (hinside last (by simp))

/-! ## What follows on a statement -/

/-- What follows on a statement is dispatched by itself, and its problem is that of the line. -/
theorem Opens.dispatch_append (h : Opens handlers [] front tok handler) {more body : List Token}
    {terminator? : Option String}
    (hread : handler.read ⟨front.reverse, tok⟩ ⟨body, [], terminator?⟩ = .ok statement)
    (hsegment : handler.segment (tail ++ more) = ⟨body, rest, terminator?⟩) :
    dispatch handlers ((front ++ tok :: tail) ++ more) =
      (dispatch handlers rest).map (statement :: ·) := by
  have hsame := read_of_rest handler ⟨front.reverse, tok⟩ ⟨body, [], terminator?⟩ rest
  rw [List.append_assoc, List.cons_append, dispatch, h.dispatchOnto_eq, List.append_nil, hsegment,
    hsame, hread]

theorem dispatch_comment {comment : Token} (hkind : comment.kind = .comment) :
    dispatch Handler.all [comment] = .ok [.comment comment.text] := by
  have hstarts : Handler.all.find? (Handler.starts ⟨[], comment⟩) = some .comment := by
    simp [Handler.all, Handler.starts, Candidate.isWord, Candidate.single, declarationWords,
      Token.is, Token.isRegister, hkind]
  exact dispatch_first hstarts rfl rfl rfl

/-- **Dispatching is local to a statement.**  Take the tokens of one statement, all of them and none
a comment.  If they end with a terminator of the statement, more tokens after them are dispatched as
they are by themselves, and come to the same problem.  If they do not, this holds for more tokens
after a semicolon, and a comment after them is the next statement. -/
theorem dispatch_append_statement (h : IsStatement Handler.all first statement)
    (hplain : ∀ tok ∈ first, tok.kind ≠ .comment) :
    (statement.isClosedBy first = true → ∀ rest, dispatch Handler.all (first ++ rest) =
        (dispatch Handler.all rest).map (statement :: ·)) ∧
      (statement.isClosedBy first = false →
        (∀ semicolon rest, semicolon.isOp ";" = true →
          dispatch Handler.all (first ++ semicolon :: rest) =
            (dispatch Handler.all rest).map (statement :: ·)) ∧
        ∀ comment, comment.kind = .comment →
          dispatch Handler.all (first ++ [comment]) = .ok [statement, .comment comment.text]) := by
  obtain ⟨front, tok, tail, handler, rfl, hopens, hread, hrest⟩ :=
    isStatement_iff_opens.mp h
  have hstarts := hopens.starts
  rw [List.append_nil] at hstarts
  have htail : ∀ other ∈ tail, other.kind ≠ .comment :=
    fun other hother => hplain other (by simp [hother])
  have hne : handler ≠ .comment := ne_comment_of_starts (hplain tok (by simp)) hstarts
  have hends := segment_eq_upTo ((read_family _ _ handler).of_ok hread) hne
  rcases inside_or_terminated hends htail hrest with hinside | ⟨body, mark, rfl, hmark, hbody⟩
  · have hopen := isClosedBy_of_inside front (isEndedBy_of_starts hstarts) hinside
    rw [hends, Segment.upTo_of_inside hinside] at hread
    refine ⟨fun hclosed => absurd hclosed (by simp [hopen]), fun _ => ⟨?_, ?_⟩⟩
    · intro semicolon rest hsemicolon
      obtain ⟨hkind, htext⟩ : semicolon.kind = .op ∧ semicolon.text = ";" := by
        simpa [Token.isOp] using hsemicolon
      have hmem : semicolon.text ∈ statement.terminators :=
        htext ▸ statement.semicolon_mem_terminators
      refine hopens.dispatch_append ((read_semicolon handler _ tail []).trans hread) ?_
      rw [hends, Segment.upTo_append_mark hinside hkind hmem, htext]
    · intro comment hkind
      have hsegment : handler.segment (tail ++ [comment]) = ⟨tail, [comment], none⟩ := by
        rw [hends, Segment.upTo_append_of_comment hinside (by simp [hkind])]
      rw [hopens.dispatch_append hread hsegment, dispatch_comment hkind]
      rfl
  · have hclosed : statement.isClosedBy (front ++ tok :: (body ++ [mark])) = true := by
      rw [← List.cons_append, ← List.append_assoc, isClosedBy_concat, hmark]
    refine ⟨fun _ rest => ?_, fun hopen => absurd hclosed (by simp [hopen])⟩
    obtain ⟨hkind, hmem⟩ := Statement.isEndedBy_iff.mp hmark
    have hsegment : ∀ rest, handler.segment (body ++ [mark] ++ rest) =
        ⟨body, rest, some mark.text⟩ := by
      intro rest
      rw [List.append_assoc, List.singleton_append, hends]
      exact Segment.upTo_append_mark hbody hkind hmem rest
    have halone := hsegment []
    rw [List.append_nil] at halone
    rw [halone] at hread
    exact hopens.dispatch_append hread (hsegment rest)

/-- The tokens of `if r1 == r2:`. -/
def headTokens : List Token :=
  [⟨.ident, "if", 1⟩, ⟨.ident, "r1", 4⟩, ⟨.op, "==", 7⟩, ⟨.ident, "r2", 10⟩, ⟨.op, ":", 12⟩]

/-- The tokens of `r1 = r2`. -/
def copyTokens : List Token := [⟨.ident, "r1", 1⟩, ⟨.op, "=", 4⟩, ⟨.ident, "r2", 6⟩]

/-- A head and a copy on one line are dispatched one by one, and so are two copies with a semicolon
between them.  A comment may follow on a copy. -/
theorem headTokens_followed :
    dispatch Handler.all (headTokens ++ copyTokens) =
        (dispatch Handler.all copyTokens).map (.branch (.compare "r1" .eq "r2") :: ·) ∧
      dispatch Handler.all (copyTokens ++ ⟨.op, ";", 8⟩ :: copyTokens) =
        (dispatch Handler.all copyTokens).map (.move "r1" "r2" :: ·) ∧
      dispatch Handler.all (copyTokens ++ [⟨.comment, " done", 9⟩]) =
        .ok [.move "r1" "r2", .comment " done"] := by
  have hhead : IsStatement Handler.all headTokens (.branch (.compare "r1" .eq "r2")) :=
    ⟨by decide +kernel, by decide +kernel⟩
  have hcopy : IsStatement Handler.all copyTokens (.move "r1" "r2") :=
    ⟨by decide +kernel, by decide +kernel⟩
  obtain ⟨hsemicolon, hcomment⟩ := (dispatch_append_statement hcopy (by decide)).2 (by decide)
  exact ⟨(dispatch_append_statement hhead (by decide)).1 (by decide) copyTokens,
    hsemicolon _ copyTokens (by decide), hcomment _ rfl⟩

end Shorthand
