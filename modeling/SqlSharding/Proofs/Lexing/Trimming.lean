import Mathlib.Data.List.TakeWhile
import SqlSharding.Proofs.Lexing.Layout
import SqlSharding.Proofs.Trimming

/-!
# Blanks around a text

Blanks at either end of a text change none of its tokens, whether or not there is a fault in it: what
cannot be scanned before blanks cannot be scanned without them, and a comment or a gap that reaches the
end of the text reaches it over blanks too.
-/

namespace SqlSharding

variable {rules : LexicalRules} {blanks : List Char}

namespace Text

/-- A blank differs from what is no blank. -/
theorem ne_of_isBlank {c mark : Char} (isBlank : isBlank c = true)
    (notBlank : Text.isBlank mark = false) : c ≠ mark := by
  rintro rfl
  rw [isBlank] at notBlank
  cases notBlank

/-- What is not ahead is not ahead before blanks at the end either, if it is no blank itself. -/
theorem head?_append_ne {mark : Char} {characters : List Char}
    (areBlank : ∀ c ∈ blanks, isBlank c = true) (notBlank : isBlank mark = false)
    (other : characters.head? ≠ some mark) : (characters ++ blanks).head? ≠ some mark := by
  cases characters with
  | nil => exact fun isHead => ne_of_isBlank (areBlank mark (List.mem_of_head? isHead)) notBlank rfl
  | cons c characters => exact other

end Text

open Text

/-- A text continues in the same way with blanks at its end. -/
theorem Continues.append_blanks (areBlank : ∀ c ∈ blanks, isBlank c = true) (characters : List Char) :
    Continues characters (characters ++ blanks) := by
  have ahead : Continues [] blanks := by
    cases blanks with
    | nil => exact .atEnd
    | cons c blanks => exact .stop (by simp [isStop, areBlank c List.mem_cons_self])
  simpa using ahead.append characters

/-- Blanks are filler. -/
theorem Filler.of_blanks (areBlank : ∀ c ∈ blanks, isBlank c = true) : Filler rules blanks := by
  induction blanks with
  | nil => exact .nil
  | cons c blanks inductionHypothesis =>
    rw [List.forall_mem_cons] at areBlank
    exact .blank areBlank.1 (inductionHypothesis areBlank.2)

namespace Gap

/-- A blank between tokens is skipped. -/
theorem skip_blank {place : Nat} {c : Char} {rest : List Char} (isBlank : isBlank c = true) :
    betweenTokens.skip rules place (c :: rest) = skip rules .betweenTokens (place + 1) rest := by
  rw [skip_betweenTokens (fun isPair => ne_of_isBlank isBlank (by decide) isPair.1)
    (fun isPair => ne_of_isBlank isBlank (by decide) isPair.1), if_pos isBlank]

/-- Blanks are skipped in every part of a gap. -/
theorem skip_blanks (areBlank : ∀ c ∈ blanks, isBlank c = true) (gap : Gap) (place : Nat) :
    (gap.skip rules place blanks).2 = [] := by
  induction blanks generalizing gap place with
  | nil => rw [skip]
  | cons c blanks inductionHypothesis =>
    rw [List.forall_mem_cons] at areBlank
    have skipped := inductionHypothesis areBlank.2
    cases gap with
    | lineComment => rw [skip, skipped]
    | blockComment =>
      rw [skip_blockComment fun isPair => ne_of_isBlank areBlank.1 (by decide) isPair.1, skipped]
    | betweenTokens => rw [skip_blank areBlank.1, skipped]

/-- Two characters that do not stand at the front of a text do not stand there before blanks. -/
theorem not_pair_append_blanks {first second c : Char} {characters : List Char}
    (areBlank : ∀ c ∈ blanks, isBlank c = true) (notBlank : isBlank second = false)
    (notPair : ∀ more, c = first → characters = second :: more → False) :
    ¬(c = first ∧ (characters ++ blanks).head? = some second) := by
  rintro ⟨isFirst, isSecond⟩
  refine head?_append_ne areBlank notBlank (fun isHead => ?_) isSecond
  obtain ⟨more, whole⟩ := List.head?_eq_some_iff.mp isHead
  exact notPair more isFirst whole

/-- A gap before blanks ends where it did, but a gap that reaches the end goes on over the blanks. -/
theorem skip_append_blanks (areBlank : ∀ c ∈ blanks, isBlank c = true) (gap : Gap)
    (place place' : Nat) (characters : List Char) :
    (gap.skip rules place' (characters ++ blanks)).2 =
      if (gap.skip rules place characters).2 = [] then []
      else (gap.skip rules place characters).2 ++ blanks := by
  fun_induction skip rules gap place characters generalizing place' with
  | case1 gap place => exact skip_blanks areBlank gap place'
  | case2 place c rest inductionHypothesis =>
    rw [List.cons_append, skip]
    exact inductionHypothesis _
  | case3 place rest inductionHypothesis =>
    rw [List.cons_append, List.cons_append, skip]
    exact inductionHypothesis _
  | case4 place c rest notClosed inductionHypothesis =>
    rw [List.cons_append,
      skip_blockComment (not_pair_append_blanks areBlank (by decide) notClosed)]
    exact inductionHypothesis _
  | case5 place rest inductionHypothesis =>
    rw [List.cons_append, List.cons_append, skip]
    exact inductionHypothesis _
  | case6 place rest inductionHypothesis =>
    rw [List.cons_append, List.cons_append, skip]
    exact inductionHypothesis _
  | case7 place c rest notLine notBlock isBlank inductionHypothesis =>
    rw [List.cons_append, skip_blank isBlank]
    exact inductionHypothesis _
  | case8 place c rest notLine notBlock notBlank isHash inductionHypothesis =>
    obtain ⟨rfl, hashComments⟩ := isHash
    rw [List.cons_append, skip_betweenTokens (by simp) (by simp), if_neg notBlank,
      if_pos ⟨rfl, hashComments⟩]
    exact inductionHypothesis _
  | case9 place c rest notLine notBlock notBlank notHash =>
    rw [List.cons_append,
      skip_betweenTokens (not_pair_append_blanks areBlank (by decide) notLine)
        (not_pair_append_blanks areBlank (by decide) notBlock),
      if_neg notBlank, if_neg notHash, if_neg (List.cons_ne_nil c rest)]

end Gap

namespace Scan

variable {dictionary : Dictionary} {first : Char} {rest : List Char}

/-- A string without a single quote is not closed. -/
theorem stringValue_of_not_mem {characters : List Char} (noQuote : '\'' ∉ characters) :
    stringValue characters = none := by
  induction characters with
  | nil => rw [stringValue]
  | cons c characters inductionHypothesis =>
    rw [List.mem_cons, not_or] at noQuote
    rw [stringValue, if_neg (Ne.symm noQuote.1), inductionHypothesis noQuote.2]
    · rfl
    · rintro more rfl
      exact absurd rfl noQuote.1

/-- Blanks at the end do not close a string. -/
theorem stringValue_append_blanks (areBlank : ∀ c ∈ blanks, isBlank c = true)
    (unclosed : stringValue rest = none) : stringValue (rest ++ blanks) = none := by
  fun_induction stringValue rest with
  | case1 more inductionHypothesis =>
    rw [List.cons_append, List.cons_append, stringValue, inductionHypothesis (by simpa using unclosed)]
    rfl
  | case2 => cases unclosed
  | case3 c more notDoubled notQuote inductionHypothesis =>
    rw [List.cons_append, stringValue, if_neg notQuote,
      inductionHypothesis (by simpa using unclosed)]
    · rfl
    · rintro later rfl
      exact absurd rfl notQuote
  | case4 => exact stringValue_of_not_mem fun isIn => ne_of_isBlank (areBlank _ isIn) (by decide) rfl

/-- Blanks at the end do not close a quoted identifier. -/
theorem quotedIdentifier_append_blanks {opening closing : Char} {fault : ScanFault}
    (areBlank : ∀ c ∈ blanks, isBlank c = true) (notBlank : isBlank closing = false)
    (unclosed : quotedIdentifier opening closing rest = .error fault) :
    quotedIdentifier opening closing (rest ++ blanks) = .error fault := by
  obtain ⟨rfl, notClosed⟩ := not_mem_of_quotedIdentifier unclosed
  have notClosed' : ∀ c ∈ rest ++ blanks, (c != closing) = true := by
    intro c isIn
    rw [bne_iff_ne]
    rintro rfl
    rcases List.mem_append.mp isIn with isIn | isIn
    · exact notClosed isIn
    · exact ne_of_isBlank (areBlank c isIn) notBlank rfl
  rw [quotedIdentifier, List.dropWhile_eq_nil_iff.mpr notClosed']

/-- What begins no symbol begins none before blanks at the end. -/
theorem symbol_append_blanks {fault : ScanFault} (areBlank : ∀ c ∈ blanks, isBlank c = true)
    (failed : symbol first rest = .error fault) : symbol first (rest ++ blanks) = .error fault := by
  have noPair {characters : List Char} : characters.head?.bind (pairSymbol? first) = none ↔
      characters.head?.any (fun c => (pairSymbol? first c).isSome) = false := by
    cases characters <;> simp
  unfold symbol at failed ⊢
  split at failed
  · cases failed
  · rename_i alone
    have alone' := noPair.mpr ((Continues.append_blanks areBlank rest).head?_any
      (stopped_pairSymbol first) (noPair.mp alone))
    split at failed
    · cases failed
    · rename_i notSingle
      simp only [alone', failed]

/-- What begins neither a closed quote nor a symbol begins none before blanks at the end. -/
theorem quoteOrSymbol_append_blanks {fault : ScanFault}
    (areBlank : ∀ c ∈ blanks, isBlank c = true)
    (failed : quoteOrSymbol rules first rest = .error fault) :
    quoteOrSymbol rules first (rest ++ blanks) = .error fault := by
  unfold quoteOrSymbol at failed ⊢
  split at failed
  · rename_i isString
    rw [if_pos isString]
    unfold string at failed ⊢
    split at failed
    · cases failed
    · rename_i unclosed
      rw [stringValue_append_blanks areBlank unclosed]
      exact failed
  rename_i notString
  rw [if_neg notString]
  split at failed
  · rename_i isDouble
    rw [if_pos isDouble]
    exact quotedIdentifier_append_blanks areBlank (by decide) failed
  rename_i notDouble
  rw [if_neg notDouble]
  split at failed
  · rename_i isBacktick
    rw [if_pos isBacktick]
    exact quotedIdentifier_append_blanks areBlank (by decide) failed
  rename_i notBacktick
  rw [if_neg notBacktick]
  split at failed
  · rename_i isBracket
    rw [if_pos isBracket]
    exact quotedIdentifier_append_blanks areBlank (by decide) failed
  · rename_i notBracket
    rw [if_neg notBracket]
    exact symbol_append_blanks areBlank failed

/-- What is no lexeme is none before blanks. -/
theorem lexeme_append_blanks {fault : ScanFault} (areBlank : ∀ c ∈ blanks, isBlank c = true)
    (failed : lexeme rules dictionary first rest = .error fault) :
    lexeme rules dictionary first (rest ++ blanks) = .error fault := by
  have behind := quoteOrSymbol_append_blanks areBlank (quoteOrSymbol_of_lexeme failed)
  unfold lexeme at failed ⊢
  split at failed
  · cases failed
  rename_i notVariable
  split at failed
  · cases failed
  rename_i notWord
  split at failed
  · cases failed
  split at failed
  · cases failed
  rename_i notNumber
  have notDigit : first.isDigit = false :=
    Bool.eq_false_iff.mpr fun isDigit => notNumber (.inl isDigit)
  rw [if_neg notVariable, if_neg notWord, if_neg, if_neg]
  · exact behind
  · rintro (isDigit | ⟨isPoint, isDigit⟩)
    · exact notNumber (.inl isDigit)
    · have noDigit : rest.head?.any Char.isDigit = false :=
        Bool.eq_false_iff.mpr fun isDigit => notNumber (.inr ⟨isPoint, isDigit⟩)
      rw [(Continues.append_blanks areBlank rest).head?_any stopped_isDigit noDigit] at isDigit
      cases isDigit
  · rintro ⟨rfl, -⟩
    cases notDigit

end Scan

namespace Lexer

variable {lexer : Lexer} {text filler : List Char}

/-- Blanks behind a text, and filler in front of it, change none of its tokens. -/
theorem sameLexemes_of_blanks (stands : lexer.StandsIn rules text)
    (areBlank : ∀ c ∈ blanks, isBlank c = true) (isFiller : Filler rules filler) (offset : Nat) :
    List.Forall₂ Token.SameLexeme (Tape.ofLexer lexer).tokens
      (Tape.ofLexer (lexer.moveTo offset (filler ++ (lexer.rest ++ blanks)))).tokens := by
  induction bound : lexer.rest.length using Nat.strongRecOn generalizing lexer filler offset with
  | _ bound inductionHypothesis =>
    have keywords := stands.keywords
    rcases lexer.next_cases keywords with
      ⟨token, after, reads⟩ | ⟨place, after, answer⟩ | ⟨fault, after, answer⟩
    · have rereads := stands.rereads reads
      obtain ⟨answer, place, same, again⟩ := rereads.again offset (isFiller.append rereads.gap)
        (.inl rfl) (Continues.append_blanks areBlank after.rest)
      have whole : filler ++ (lexer.rest ++ blanks) =
          (filler ++ text.extract lexer.offset token.start) ++
            (text.extract token.start token.stop ++ (after.rest ++ blanks)) := by
        rw [rereads.rest]
        simp only [List.append_assoc]
      have later := inductionHypothesis _ (bound ▸ reads.shorter keywords) rereads.stands .nil place rfl
      rw [rereads.moved] at later
      have again_eq := Tape.ofLexer_of_reads (by exact keywords) again
      rw [whole, Tape.ofLexer_of_reads keywords reads, again_eq]
      exact .cons same later
    · have reached := (next_end_iff keywords).mp ⟨place, after, answer⟩
      obtain ⟨place', after', answer'⟩ :=
        (@next_end_iff (lexer.moveTo offset (filler ++ (lexer.rest ++ blanks))) keywords).mpr (by
          rw [moveTo_rest, moveTo_offset, moveTo_rules, Gap.skip_filler (stands.rules ▸ isFiller),
            Gap.skip_append_blanks areBlank _ lexer.offset, if_pos reached])
      rw [Tape.ofLexer_of_end answer, Tape.ofLexer_of_end answer']
      exact .cons ⟨rfl, .inl rfl⟩ .nil
    · obtain ⟨first, others, cause, stopped, failed⟩ := next_fault_iff.mp ⟨fault, after, answer⟩
      obtain ⟨fault', after', answer'⟩ :=
        (@next_fault_iff (lexer.moveTo offset (filler ++ (lexer.rest ++ blanks)))).mpr (by
          refine ⟨first, others ++ blanks, cause, ?_, Scan.lexeme_append_blanks areBlank failed⟩
          rw [moveTo_rest, moveTo_offset, moveTo_rules, Gap.skip_filler (stands.rules ▸ isFiller),
            Gap.skip_append_blanks areBlank _ lexer.offset, stopped, if_neg (List.cons_ne_nil _ _)]
          rfl)
      rw [(Tape.ofLexer_of_fault answer).1, (Tape.ofLexer_of_fault answer').1]
      exact .nil

end Lexer

/-- A text and the text without the blanks around it have the same tokens. -/
theorem Tape.sameLexemes_of_trim (dialect : Dialect) (text : String) :
    List.Forall₂ Token.SameLexeme
      (ofText dialect (String.ofList (Text.trimChars text.toList))).tokens
      (ofText dialect text).tokens := by
  obtain ⟨front, behind, whole, frontBlank, behindBlank⟩ := Text.exists_trimChars text.toList
  have stands := Lexer.standsIn_ofText (.ofGrammar dialect.grammar) dialect
    (String.ofList (Text.trimChars text.toList))
  have sames := Lexer.sameLexemes_of_blanks stands behindBlank (.of_blanks frontBlank) 0
  have sameRest : (Lexer.ofText (.ofGrammar dialect.grammar) (.ofDialect dialect)
      (String.ofList (Text.trimChars text.toList))).rest = Text.trimChars text.toList :=
    String.toList_ofList
  rw [sameRest, ← whole] at sames
  exact sames

end SqlSharding
