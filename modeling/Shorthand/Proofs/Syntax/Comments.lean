import Shorthand.Proofs.Syntax.Characters
import Shorthand.Proofs.Syntax.Insertion
import Shorthand.Proofs.Syntax.Parsed
import Shorthand.Proofs.Syntax.Truncation

/-!
# Sources without their comments

A comment ends its line, and it ends every statement.  `Source.withoutComments` cuts each line off
where its comment starts, and this file shows what that does to the statements of the source: those
that are comments are gone, and the others stay, each on the line with the same number
(`parse_withoutComments`).  If the source cannot be parsed, what is left of it cannot be parsed
either, for the same reason and on the same line.

## Strategy

* **Lines.**  No handler but the one of comments looks at a comment: the segment of a statement ends
  before it (`segment_append_comment`), and as the last token it starts nothing else
  (`eq_comment_of_starts`).  So the dispatcher does with the tokens before the comment what it did
  before, and a statement for the comment comes last, if it comes at all
  (`dispatchOnto_append_comment`).
* **Bytes.**  What is left of a line is read as the characters before the comment
  (`toList_decode_takeChars`), and the tokens among them are those of the line
  (`lex_before_comment`).
-/

namespace Shorthand

open Text

/-! ## Dispatching the tokens before a comment -/

/-- A comment at the end changes no segment, but follows on its statement. -/
theorem Segment.upTo_append_comment (terminators : List String) {tokens : List Token}
    {ending? : Option Token} (hplain : ∀ tok ∈ tokens, tok.kind ≠ .comment)
    (hending : ∀ tok ∈ ending?, tok.kind = .comment) :
    Segment.upTo terminators (tokens ++ ending?.toList) =
      ⟨(Segment.upTo terminators tokens).body,
        (Segment.upTo terminators tokens).rest ++ ending?.toList,
        (Segment.upTo terminators tokens).terminator?⟩ := by
  induction tokens with
  | nil =>
      cases ending? with
      | none => rfl
      | some comment =>
          have hkind := hending comment rfl
          simp [Segment.upTo, endsStatement, hkind]
  | cons tok tokens ih =>
      obtain ⟨htok, hplain⟩ := List.forall_mem_cons.mp hplain
      cases hends : endsStatement terminators tok with
      | true => simp [Segment.upTo, hends, htok]
      | false =>
          have hfront : ∀ other ∈ [tok], endsStatement terminators other = false := by
            simpa using hends
          have happend := Segment.upTo_append hfront
          simp only [List.singleton_append] at happend
          rw [List.cons_append, happend, happend, ih hplain]

theorem segment_append_comment {handler : Handler} (hne : handler ≠ .comment)
    {tokens : List Token} {ending? : Option Token} (hplain : ∀ tok ∈ tokens, tok.kind ≠ .comment)
    (hending : ∀ tok ∈ ending?, tok.kind = .comment) :
    handler.segment (tokens ++ ending?.toList) =
      ⟨(handler.segment tokens).body, (handler.segment tokens).rest ++ ending?.toList,
        (handler.segment tokens).terminator?⟩ := by
  cases handler with
  | comment => exact absurd rfl hne
  | _ => exact Segment.upTo_append_comment _ hplain hending

/-- A candidate that ends in a comment is one of a comment, or of nothing. -/
theorem eq_comment_of_starts {handler : Handler} {before : List Token} {tok : Token}
    (hkind : tok.kind = .comment) (h : Handler.starts ⟨before, tok⟩ handler = true) :
    handler = .comment := by
  cases handler <;>
    simp_all [Handler.starts, Candidate.isWord, Token.isRegister, Token.is]

theorem ne_comment_of_starts {handler : Handler} {before : List Token} {tok : Token}
    (hkind : tok.kind ≠ .comment) (h : Handler.starts ⟨before, tok⟩ handler = true) :
    handler ≠ .comment := by
  rintro rfl
  simp [Handler.starts, hkind] at h

/-- The statements that are no comments. -/
def codeOf (statements : List Statement) : List Statement :=
  statements.filter fun statement => !statement.isComment

theorem codeOf_eq_self {statements : List Statement}
    (h : ∀ statement ∈ statements, statement.isComment = false) :
    codeOf statements = statements :=
  List.filter_eq_self.mpr fun statement hmem => by rw [h statement hmem]; rfl

/-- At a comment no statement starts but one of a comment. -/
private theorem codeOf_dispatchOnto_ending {handlers : List Handler} {done : List Statement}
    {before : List Token} {ending? : Option Token}
    (hdone : ∀ statement ∈ done, statement.isComment = false)
    (hending : ∀ tok ∈ ending?, tok.kind = .comment) :
    (dispatchOnto handlers done before ending?.toList).map codeOf = .ok done.reverse := by
  have hcode : codeOf done.reverse = done.reverse :=
    codeOf_eq_self fun statement hmem => hdone statement (List.mem_reverse.mp hmem)
  cases ending? with
  | none =>
      rw [Option.toList_none, dispatchOnto]
      exact congrArg Except.ok hcode
  | some comment =>
      rw [Option.toList_some, dispatchOnto]
      cases hfind : handlers.find? (Handler.starts ⟨before, comment⟩) with
      | none =>
          dsimp only
          rw [dispatchOnto]
          exact congrArg Except.ok hcode
      | some handler =>
          obtain rfl := eq_comment_of_starts (hending comment rfl) (List.find?_some hfind)
          simp only [Handler.read, Handler.segment, dispatchOnto]
          refine congrArg Except.ok ?_
          rw [List.reverse_cons, codeOf, List.filter_append]
          exact (List.append_nil _).trans hcode

/-- A comment after the tokens adds a statement that is a comment, or nothing. -/
theorem dispatchOnto_append_comment {handlers : List Handler} {done : List Statement}
    {before tokens : List Token} {ending? : Option Token}
    (hdone : ∀ statement ∈ done, statement.isComment = false)
    (hplain : ∀ tok ∈ tokens, tok.kind ≠ .comment)
    (hending : ∀ tok ∈ ending?, tok.kind = .comment) :
    (dispatchOnto handlers done before (tokens ++ ending?.toList)).map codeOf =
      dispatchOnto handlers done before tokens := by
  fun_induction dispatchOnto handlers done before tokens with
  | case1 done before =>
      rw [List.nil_append, codeOf_dispatchOnto_ending hdone hending]
  | case2 done before tok rest hnone ih =>
      rw [List.cons_append, dispatchOnto, hnone]
      exact ih hdone (List.forall_mem_cons.mp hplain).2
  | case3 done before tok rest handler hfind problem hread =>
      obtain ⟨htok, hrest⟩ := List.forall_mem_cons.mp hplain
      have hne := ne_comment_of_starts htok (List.find?_some hfind)
      rw [List.cons_append, dispatchOnto, hfind]
      dsimp only
      rw [segment_append_comment hne hrest hending, read_of_rest, hread]
      rfl
  | case4 done before tok rest handler hfind statement hread ih =>
      obtain ⟨htok, hrest⟩ := List.forall_mem_cons.mp hplain
      have hne := ne_comment_of_starts htok (List.find?_some hfind)
      have hstatement : statement.isComment = false :=
        Statement.isComment_of_family (((read_family _ _ handler).of_ok hread).trans_ne hne)
      have hlater : ∀ other ∈ statement :: done, other.isComment = false :=
        List.forall_mem_cons.mpr ⟨hstatement, hdone⟩
      have hsuffix := rest_segment_suffix handler rest
      rw [List.cons_append, dispatchOnto, hfind]
      dsimp only
      rw [segment_append_comment hne hrest hending, read_of_rest, hread]
      exact ih hlater fun other hother => hrest other (hsuffix.subset hother)

/-! ## Lines -/

/-- Where the comment of a line starts, by the number of characters before it. -/
def commentStart? (line : String) : Option Nat :=
  ((lex line).tokens.find? fun tok => tok.kind == .comment).map Token.start

/-- A line that ends in a comment is lexed without a problem. -/
theorem not_comment_of_problem {done : List Token} {pos : Nat} {chars : List Char}
    {problem : Problem} (h : (lexOnto done pos chars).problem? = some problem)
    (hdone : ∀ tok ∈ done, tok.kind ≠ .comment) :
    ∀ tok ∈ (lexOnto done pos chars).tokens, tok.kind ≠ .comment := by
  fun_induction lexOnto done pos chars with
  | case1 => cases h
  | case2 => exact fun tok htok => hdone tok (List.mem_reverse.mp htok)
  | case3 done pos chars c rest hrest start l hlexeme ih =>
      refine ih h (List.forall_mem_cons.mpr ⟨fun hkind => ?_, hdone⟩)
      obtain ⟨text, -, -, rfl⟩ := lexeme_comment hlexeme hkind
      rw [lexOnto_of_blank _ _ (by simp)] at h
      cases h

/-- The tokens of a line before its comment, and the comment. -/
theorem exists_plain (line : String) : ∃ (tokens : List Token) (ending? : Option Token),
    (lex line).tokens = tokens ++ ending?.toList ∧ (∀ tok ∈ tokens, tok.kind ≠ .comment) ∧
      (∀ tok ∈ ending?, tok.kind = .comment) ∧ commentStart? line = ending?.map Token.start := by
  have hcovers : (lex line).Covers line.toList := covers_lexOnto (.start _) rfl
  rcases List.eq_nil_or_concat (lex line).tokens with hnil | ⟨tokens, last, hlast⟩
  · exact ⟨[], none, hnil, nofun, nofun, by rw [commentStart?, hnil]; rfl⟩
  · rw [List.concat_eq_append] at hlast
    have hplain : ∀ tok ∈ tokens, tok.kind ≠ .comment := fun tok htok =>
      hcovers.comment_last tok (by rw [hlast, List.dropLast_concat]; exact htok)
    have hnone : tokens.find? (fun tok => tok.kind == .comment) = none :=
      List.find?_eq_none.mpr fun tok htok => by simpa using hplain tok htok
    by_cases hkind : last.kind = .comment
    · refine ⟨tokens, some last, hlast, hplain, by simpa using hkind, ?_⟩
      rw [commentStart?, hlast, List.find?_append, hnone]
      simp [hkind]
    · refine ⟨tokens ++ [last], none, by simpa using hlast, ?_, nofun, ?_⟩
      · exact List.forall_mem_append.mpr ⟨hplain, by simpa using hkind⟩
      · rw [commentStart?, hlast, List.find?_append, hnone]
        simp [hkind]

/-- A line without its comment says what the line does, but for the comment. -/
theorem parseLine_before_comment (handlers : List Handler) {line : String} {start : Nat}
    (htrim : trim line = line) (hstart : commentStart? line = some start) :
    parseLine handlers (trim (String.ofList (line.toList.take start))) =
      (parseLine handlers line).map codeOf := by
  obtain ⟨tokens, ending?, htokens, hplain, hending, hcomment⟩ := exists_plain line
  rw [hstart] at hcomment
  cases ending? with
  | none => cases hcomment
  | some comment =>
      obtain rfl := Option.some.inj hcomment
      have hproblem : (lex line).problem? = none := by
        cases hlexed : (lex line).problem? with
        | none => rfl
        | some problem =>
            have hmem : comment ∈ (lex line).tokens := by simp [htokens]
            exact absurd (hending comment rfl) (not_comment_of_problem hlexed nofun comment hmem)
      have hlex : lex line = ⟨tokens ++ [comment], none⟩ := by
        rw [← hproblem]
        exact congrArg (Lexed.mk · _) htokens
      rw [parseLine, lex_before_comment htrim hlex, parseLine, hlex]
      exact (dispatchOnto_append_comment (List.forall_mem_nil _) hplain hending).symm

/-- A line without a comment says nothing that is a comment. -/
theorem parseLine_without_comment (handlers : List Handler) {line : String}
    (hnone : commentStart? line = none) :
    (parseLine handlers line).map codeOf = parseLine handlers line := by
  obtain ⟨tokens, ending?, htokens, hplain, hending, hcomment⟩ := exists_plain line
  rw [hnone] at hcomment
  cases ending? with
  | some comment => cases hcomment
  | none =>
      rw [Option.toList_none, List.append_nil] at htokens
      unfold parseLine
      cases (lex line).problem? with
      | some problem => rfl
      | none =>
          have hsame : (dispatch handlers (tokens ++ [])).map codeOf = dispatch handlers tokens :=
            dispatchOnto_append_comment (List.forall_mem_nil _) hplain hending
          rw [List.append_nil] at hsame
          rw [htokens]
          exact hsame

/-! ## Lines of bytes -/

namespace Source

/-- The bytes of a line before its comment, and the carriage return at its end if there is one. -/
def withoutComment (line : List UInt8) : List UInt8 :=
  match commentStart? (trim (lineText line)) with
  | none => line
  | some start =>
      Utf8.takeChars (((lineText line).toList.takeWhile isSpace).length + start)
          (dropReturn line) ++
        line.drop (dropReturn line).length

theorem dropReturn_append_return (line : List UInt8) : dropReturn (line ++ [13]) = line := by
  simp [dropReturn]

theorem dropReturn_of_ne {line : List UInt8} (h : line.getLast? ≠ some 13) :
    dropReturn line = line := by
  simp [dropReturn, h]

/-- A carriage return at the end is trimmed away, if it is not dropped before. -/
theorem trim_lineText (line : List UInt8) : trim (lineText line) = trim (Utf8.decode line) := by
  by_cases hreturn : line.getLast? = some 13
  · obtain ⟨front, rfl⟩ := List.getLast?_eq_some_iff.mp hreturn
    have hspace : ∀ c ∈ ['\r'], isSpace c = true :=
      List.forall_mem_singleton.mpr (by decide +kernel)
    rw [lineText, dropReturn_append_return, trim, trim, Utf8.toList_decode_append_return,
      trimChars_append_right hspace]
  · rw [lineText, dropReturn_of_ne hreturn]

/-- What is left of a line with a comment is read as the characters before the comment. -/
theorem trim_withoutComment {line : List UInt8} {start : Nat}
    (h : commentStart? (trim (lineText line)) = some start) :
    trim (lineText (withoutComment line)) =
      trim (String.ofList ((trim (lineText line)).toList.take start)) := by
  have htaken : ∀ count, trim (lineText (Utf8.takeChars count (dropReturn line) ++
      line.drop (dropReturn line).length)) =
        trim (String.ofList ((lineText line).toList.take count)) := by
    intro count
    have hdecode : Utf8.decode (Utf8.takeChars count (dropReturn line)) =
        String.ofList ((lineText line).toList.take count) := by
      rw [← String.toList_inj, Utf8.toList_decode_takeChars, String.toList_ofList]
      rfl
    rw [← hdecode]
    by_cases hreturn : line.getLast? = some 13
    · obtain ⟨front, rfl⟩ := List.getLast?_eq_some_iff.mp hreturn
      rw [dropReturn_append_return, List.drop_left, lineText, dropReturn_append_return]
    · rw [dropReturn_of_ne hreturn, List.drop_length, List.append_nil, trim_lineText]
  -- the white space before the text and after it is trimmed away again
  obtain ⟨after, hchars, hafter⟩ := exists_trimChars (lineText line).toList
  have htake : (lineText line).toList.take
      (((lineText line).toList.takeWhile isSpace).length + start) =
        (lineText line).toList.takeWhile isSpace ++
          ((trimChars (lineText line).toList).take start ++
            after.take (start - (trimChars (lineText line).toList).length)) := by
    rw [← List.take_append, ← List.take_length_add_append, ← hchars]
  have hblank : ∀ c ∈ after.take (start - (trimChars (lineText line).toList).length),
      isSpace c = true := fun c hc => hafter c (List.mem_of_mem_take hc)
  rw [withoutComment, h]
  dsimp only
  rw [htaken, htake, trim, trim, trim, String.toList_ofList, String.toList_ofList,
    String.toList_ofList, trimChars_append_left isSpace_of_mem_takeWhile,
    trimChars_append_right hblank]

/-- What is left of a line says what the line does, but for the comment. -/
theorem parseLine_withoutComment (handlers : List Handler) (line : List UInt8) :
    parseLine handlers (trim (lineText (withoutComment line))) =
      (parseLine handlers (trim (lineText line))).map codeOf := by
  cases hstart : commentStart? (trim (lineText line)) with
  | none =>
      have hsame : withoutComment line = line := by rw [withoutComment, hstart]
      rw [hsame, parseLine_without_comment handlers hstart]
  | some start =>
      have htrim : trim (trim (lineText line)) = trim (lineText line) := by
        rw [trim, trim, String.toList_ofList, trimChars_trimChars]
      rw [trim_withoutComment hstart, parseLine_before_comment handlers htrim hstart]

/-- Goes on with the bytes of a source; `current` are those of the line so far, the last one
first. -/
def withoutCommentsOnto (current : List UInt8) : List UInt8 → List UInt8
  | [] => withoutComment current.reverse
  | byte :: rest =>
      if byte == 10 then withoutComment current.reverse ++ byte :: withoutCommentsOnto [] rest
      else withoutCommentsOnto (byte :: current) rest

/-- The bytes of a source, with every line cut off where its comment starts. -/
def withoutComments (bytes : List UInt8) : List UInt8 := withoutCommentsOnto [] bytes

/-- A line is split off at the newline after it. -/
theorem splitOnto_append_newline {line : List UInt8} (hline : ∀ byte ∈ line, byte ≠ 10)
    (current rest : List UInt8) :
    splitOnto current (line ++ 10 :: rest) = (current.reverse ++ line) :: splitOnto [] rest := by
  induction line generalizing current with
  | nil => simp [splitOnto]
  | cons byte line ih =>
      obtain ⟨hbyte, hline⟩ := List.forall_mem_cons.mp hline
      rw [List.cons_append, splitOnto, if_neg (by simpa using hbyte), ih hline]
      simp

/-- The last line needs no newline, if there is anything on it. -/
theorem splitOnto_last {line : List UInt8} (hline : ∀ byte ∈ line, byte ≠ 10)
    (current : List UInt8) :
    splitOnto current line =
      if (current.reverse ++ line).isEmpty then [] else [current.reverse ++ line] := by
  induction line generalizing current with
  | nil => simp [splitOnto]
  | cons byte line ih =>
      obtain ⟨hbyte, hline⟩ := List.forall_mem_cons.mp hline
      have hstep : splitOnto current (byte :: line) = splitOnto (byte :: current) line := by
        rw [splitOnto, if_neg (by simpa using hbyte)]
      rw [hstep, ih hline]
      simp

/-- What is left of a line are bytes of the line. -/
theorem withoutComment_sublist (line : List UInt8) : (withoutComment line).Sublist line := by
  obtain ⟨ending, hending⟩ : dropReturn line <+: line := by
    unfold dropReturn
    split
    · exact List.dropLast_prefix line
    · exact List.prefix_refl line
  have hdrop : line.drop (dropReturn line).length = ending :=
    calc line.drop (dropReturn line).length
        = (dropReturn line ++ ending).drop (dropReturn line).length := by rw [hending]
      _ = ending := List.drop_left
  unfold withoutComment
  split
  · exact List.Sublist.refl line
  · rename_i start _
    have hsublist := (Utf8.isPrefix_takeChars
      (((lineText line).toList.takeWhile isSpace).length + start) (dropReturn line)).sublist.append
        (List.Sublist.refl ending)
    rw [hdrop]
    rwa [hending] at hsublist

/-- The lines of what is left are the lines without their comments.  If nothing is left of the last
line, it is no line any more. -/
theorem exists_split_withoutComments (bytes : List UInt8) : ∀ current : List UInt8,
    (∀ byte ∈ current, byte ≠ 10) →
      ∃ extra, (extra = [] ∨ extra = [[]]) ∧ (splitOnto current bytes).map withoutComment =
        split (withoutCommentsOnto current bytes) ++ extra := by
  have hfree : ∀ current : List UInt8, (∀ byte ∈ current, byte ≠ 10) →
      ∀ byte ∈ withoutComment current.reverse, byte ≠ 10 := fun current hcurrent byte hbyte =>
    hcurrent byte (List.mem_reverse.mp ((withoutComment_sublist _).subset hbyte))
  induction bytes with
  | nil =>
      intro current hcurrent
      rw [withoutCommentsOnto, split, splitOnto_last (hfree current hcurrent), splitOnto]
      cases current with
      | nil => exact ⟨[], .inl rfl, by decide +kernel⟩
      | cons byte current =>
          by_cases hempty : withoutComment (byte :: current).reverse = []
          · refine ⟨[[]], .inr rfl, ?_⟩
            rw [hempty]
            exact congrArg ([·]) hempty
          · refine ⟨[], .inl rfl, ?_⟩
            rw [List.reverse_nil, List.nil_append, if_neg (by simp),
              if_neg (by simpa using hempty), List.append_nil]
            rfl
  | cons byte bytes ih =>
      intro current hcurrent
      rw [splitOnto, withoutCommentsOnto]
      by_cases hbyte : byte = 10
      · subst hbyte
        obtain ⟨extra, hextra, hsplit⟩ := ih [] (List.forall_mem_nil _)
        refine ⟨extra, hextra, ?_⟩
        have hnewline : ((10 : UInt8) == 10) = true := rfl
        have hleft : split (withoutComment current.reverse ++ 10 :: withoutCommentsOnto [] bytes) =
            withoutComment current.reverse :: split (withoutCommentsOnto [] bytes) :=
          splitOnto_append_newline (hfree current hcurrent) [] _
        rw [if_pos hnewline, if_pos hnewline, List.map_cons, hsplit, hleft, List.cons_append]
      · rw [if_neg (by simpa using hbyte), if_neg (by simpa using hbyte)]
        exact ih (byte :: current) (List.forall_mem_cons.mpr ⟨hbyte, hcurrent⟩)

/-- A source of which all lines are read is read as its lines. -/
theorem ofBytes_of_all_fits {bytes : List UInt8} (hfits : ∀ line ∈ split bytes, fits line = true) :
    ofBytes bytes = ⟨(split bytes).map lineText, none⟩ := by
  have hread := ofBytes_of_fits (List.append_nil (split bytes)).symm hfits
  simpa using hread

/-- What is left of a source has no longer lines. -/
theorem fits_withoutComments {bytes : List UInt8} (hfits : ∀ line ∈ split bytes, fits line = true) :
    ∀ line ∈ split (withoutComments bytes), fits line = true := by
  obtain ⟨extra, -, hsplit⟩ := exists_split_withoutComments bytes [] (List.forall_mem_nil _)
  intro line hline
  have hmem : line ∈ (split bytes).map withoutComment :=
    hsplit ▸ List.mem_append_left extra hline
  obtain ⟨old, hold, rfl⟩ := List.mem_map.mp hmem
  have hle := (withoutComment_sublist old).length_le
  have hlt := hfits old hold
  simp only [fits, decide_eq_true_eq] at hlt ⊢
  exact Nat.lt_of_le_of_lt hle hlt

end Source

/-! ## Sources -/

/-- A statement with the number of its line. -/
def Located.numbered (located : Located) : Int × Statement :=
  (located.place.number, located.statement)

/-- A problem with the number of the line where it was met. -/
def Failure.numbered (failure : Failure) : Problem × Option Int :=
  (failure.problem, failure.place?.map Place.number)

/-- The second statements are the first ones without the comments, on lines with the same
numbers. -/
def Uncommented (first second : List Located) : Prop :=
  second.map Located.numbered =
    (first.filter fun located => !located.statement.isComment).map Located.numbered

theorem Uncommented.reverse {first second : List Located} (h : Uncommented first second) :
    Uncommented first.reverse second.reverse := by
  rw [Uncommented, List.map_reverse, h, List.filter_reverse, List.map_reverse]

theorem Uncommented.append {first second first' second' : List Located}
    (h : Uncommented first second) (h' : Uncommented first' second') :
    Uncommented (first ++ first') (second ++ second') := by
  rw [Uncommented, List.map_append, h, h', List.filter_append, List.map_append]

/-- The statements of a line, on a line with the same number. -/
theorem uncommented_codeOf (statements : List Statement) {place place' : Place}
    (hnumber : place'.number = place.number) :
    Uncommented (statements.map (Located.mk place))
      ((codeOf statements).map (Located.mk place')) := by
  rw [Uncommented, List.filter_map, List.map_map, List.map_map]
  refine List.map_congr_left fun statement _ => ?_
  exact congrArg (·, statement) hnumber

section parse

variable (handlers : List Handler)

/-- A line with nothing on it, at the end of a source, says nothing. -/
theorem parseOnto_append_empty (lines : List String) :
    ∀ (done : List Located) (seen : Nat) (last : Place),
      (parseOnto handlers none done seen last (lines ++ [""])).statements =
          (parseOnto handlers none done seen last lines).statements ∧
        (parseOnto handlers none done seen last (lines ++ [""])).failure? =
          (parseOnto handlers none done seen last lines).failure? := by
  have hempty : parseLine handlers (trim "") = .ok [] := by
    have hlex : lex (trim "") = ⟨[], none⟩ := lexOnto_of_blank [] 0 rfl
    rw [parseLine, hlex]
    dsimp only
    rw [dispatch, dispatchOnto]
    rfl
  induction lines with
  | nil =>
      intro done seen last
      simp [parseOnto, hempty]
  | cons raw lines ih =>
      intro done seen last
      cases hline : parseLine handlers (trim raw) with
      | error problem => simp [parseOnto, hline]
      | ok statements =>
          simp only [List.cons_append, parseOnto, hline]
          exact ih _ _ _

/-- Parsing lines without their comments comes to the same, but for the comments. -/
theorem parseOnto_withoutComment (lines : List (List UInt8)) :
    ∀ (done done' : List Located) (seen : Nat) (last last' : Place), Uncommented done done' →
      Uncommented
          (parseOnto handlers none done seen last (lines.map Source.lineText)).statements
          (parseOnto handlers none done' seen last'
            ((lines.map Source.withoutComment).map Source.lineText)).statements ∧
        (parseOnto handlers none done' seen last'
            ((lines.map Source.withoutComment).map Source.lineText)).failure?.map
              Failure.numbered =
          (parseOnto handlers none done seen last (lines.map Source.lineText)).failure?.map
            Failure.numbered := by
  induction lines with
  | nil =>
      intro done done' seen last last' hdone
      exact ⟨hdone.reverse, rfl⟩
  | cons line lines ih =>
      intro done done' seen last last' hdone
      have hsame := Source.parseLine_withoutComment handlers line
      cases hline : parseLine handlers (trim (Source.lineText line)) with
      | error problem =>
          rw [hline] at hsame
          simp only [List.map_cons, parseOnto, hline, hsame, Except.map]
          refine ⟨hdone.reverse, ?_⟩
          -- the two failures are on lines with other texts
          simp only [Option.map_some, Failure.numbered, Failure.on]
      | ok statements =>
          rw [hline] at hsame
          simp only [List.map_cons, parseOnto, hline, hsame, Except.map]
          refine ih _ _ _ _ _ (Uncommented.append (Uncommented.reverse ?_) hdone)
          exact uncommented_codeOf statements rfl

/-- **A source without its comments has its other statements.**  When every line is cut off where
its comment starts, the statements that are no comments stay, in their order and on lines with the
same numbers; and a problem that ends the parse is met again on its line. -/
theorem parse_withoutComments {bytes : List UInt8}
    (hfits : ∀ line ∈ Source.split bytes, Source.fits line = true) :
    Uncommented (parse handlers (.ofBytes bytes)).statements
        (parse handlers (.ofBytes (Source.withoutComments bytes))).statements ∧
      (parse handlers (.ofBytes (Source.withoutComments bytes))).failure?.map Failure.numbered =
        (parse handlers (.ofBytes bytes)).failure?.map Failure.numbered := by
  have hlines := parseOnto_withoutComment handlers (Source.split bytes) [] [] 0 .start .start rfl
  rw [Source.ofBytes_of_all_fits hfits,
    Source.ofBytes_of_all_fits (Source.fits_withoutComments hfits)]
  obtain ⟨extra, hextra, hsplit⟩ := Source.exists_split_withoutComments bytes []
    (List.forall_mem_nil _)
  change (Source.split bytes).map Source.withoutComment =
    Source.split (Source.withoutComments bytes) ++ extra at hsplit
  rw [hsplit] at hlines
  rcases hextra with rfl | rfl
  · rw [List.append_nil] at hlines
    exact hlines
  · have hempty : Source.lineText [] = "" := by decide +kernel
    obtain ⟨hstatements, hfailure⟩ := parseOnto_append_empty handlers
      ((Source.split (Source.withoutComments bytes)).map Source.lineText) [] 0 .start
    rw [List.map_append, List.map_singleton, hempty, hstatements, hfailure] at hlines
    exact hlines

end parse

end Shorthand
