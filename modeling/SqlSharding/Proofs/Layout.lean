import SqlSharding.Proofs.Lexing.Layout
import SqlSharding.Proofs.Rewriting

/-!
# Layout and letter case

How a statement is laid out and in which letter case its reserved words are written does not matter:
the text has the same tokens, and it is parsed to the same statement but for the places of the names.
-/

namespace SqlSharding

/-- Tokens answered by the same ones in other places, reserved words perhaps in another letter case. -/
def Echo.relaid : Echo where
  kept := Token.SameLexeme
  marked token answer := answer.kind = token.kind ∧ answer.text = token.text
  semicolonEnds := False
  kind_of_kept same := same.kind
  text_of_kept same isName := by
    refine same.text.resolve_right ?_
    rintro ⟨⟨word, isReserved⟩, -⟩
    rw [isReserved] at isName
    cases isName
  kind_of_marked same _ := .inl same.1

/-- The marks of a trail are names, so a token that is marked has the same text. -/
theorem Echo.answers_relaid {trail : Trail} {answers : List Token}
    (names : ∀ token ∈ trail.marked, token.kind.isName = true)
    (sames : List.Forall₂ Token.SameLexeme trail.tokens answers) :
    List.Forall₂ relaid.Answers trail answers := by
  rw [Trail.tokens, List.forall₂_map_left_iff] at sames
  refine ((List.forall₂_and_left _ _).mpr ⟨fun _ isIn => isIn, sames⟩).imp ?_
  rintro ⟨token, isMarked⟩ answer ⟨isIn, same⟩
  cases isMarked with
  | false => exact same
  | true =>
    have isName := names token (by simpa [Trail.marked] using isIn)
    exact ⟨same.kind, relaid.text_of_kept same isName⟩

/-- Outlines that are alike are the same without places. -/
theorem Outline.withoutPlaces_of_relaid {outline outline' : Outline}
    (alike : Marked.Alike Echo.relaid.MarksAlike outline outline') :
    outline'.withoutPlaces = outline.withoutPlaces := by
  obtain ⟨referencesAlike, columns⟩ := alike
  refine withoutPlaces_of_alike ⟨referencesAlike.imp ?_, columns⟩
  rintro ⟨_, alias?⟩ ⟨_, _⟩ ⟨⟨token, answer, ⟨-, text⟩, rfl, rfl⟩, sameAlias⟩
  refine ⟨?_, sameAlias⟩
  simp [TableMark.SameName, TableMark.withoutPlace, Token.mark, text]

namespace Reading

variable {dialect : Dialect} {rule : ShardingRule} {text relaid : String} {statement : Statement}

/-- A text with the same tokens is parsed to the same statement. -/
theorem exists_parse_of_sameLexemes
    (sames : List.Forall₂ Token.SameLexeme (Tape.ofText dialect text).tokens
      (Tape.ofText dialect relaid).tokens)
    (parsed : parse dialect rule text = .ok statement) :
    ∃ statement', parse dialect rule relaid = .ok statement' ∧
      statement'.withoutPlaces = statement.withoutPlaces := by
  obtain ⟨family, outline, ⟨cursor, after, begins, onKeyword, read⟩, rfl⟩ :=
    parse_ok_iff_isReadFrom.mp parsed
  have retraces : Retraces Echo.relaid true false
      fun _ : Unit => outlineToEnd dialect.grammar family :=
    retraces_outlineToEnd id
  obtain ⟨trail, passed, names, -, -, again⟩ := retraces () _ _ _ begins.settled read
  have tokens := begins.tokens.symm.trans passed.tokens
  rw [tokens] at sames
  obtain ⟨answers, rest, tokens', trailSames, restSames⟩ := exists_of_forall₂_append sames
  cases restSames with
  | @cons _ answer _ later same _ =>
    obtain ⟨cursor', begins'⟩ := @Cursor.exists_begins dialect relaid (by simp [tokens'])
    obtain ⟨after', passed', onAnswer, -⟩ := Cursor.exists_passes (begins'.tokens.trans tokens')
    have isAnswered := Echo.answers_relaid names trailSames
    have ahead : Echo.relaid.Ahead true after.current after'.current :=
      .same (onAnswer ▸ same.kind)
    obtain ⟨outline', alike, read'⟩ := again () _ _ _ trivial begins'.settled isAnswered passed' ahead
    have atStart : Echo.relaid.Ahead false cursor.current cursor'.current :=
      ahead_of_trail passed passed' names (by simp) isAnswered ahead.loosen
    have isRead : outline'.IsReadFrom dialect family relaid :=
      ⟨cursor', after', begins', atStart.onReserved onKeyword, read'⟩
    refine ⟨_, parse_ok_iff_isReadFrom.mpr ⟨family, outline', isRead, rfl⟩, ?_⟩
    rw [← Outline.statement_withoutPlaces, ← Outline.statement_withoutPlaces,
      Outline.withoutPlaces_of_relaid alike]

/-- Layout at the ends of tokens and the letter case of reserved words do not matter: the tokens are
the same, and the text is parsed to the same statement but for the places of the names, or fails to be
parsed as before. -/
theorem parse_relaid (rule : ShardingRule) (clean : (Tape.ofText dialect text).isClean = true)
    (isRelaid : Relaid text.toList 0 (Tape.ofText dialect text).tokens.dropLast relaid.toList) :
    (Tape.ofText dialect relaid).isClean = true ∧
      List.Forall₂ Token.SameLexeme (Tape.ofText dialect text).tokens
        (Tape.ofText dialect relaid).tokens ∧
      (parse dialect rule relaid).toOption.map Statement.withoutPlaces =
        (parse dialect rule text).toOption.map Statement.withoutPlaces := by
  obtain ⟨clean', sames⟩ := Tape.sameLexemes_of_relaid clean isRelaid
  refine ⟨clean', sames, ?_⟩
  have samesBack := (sames.imp fun _ _ => Token.SameLexeme.symm).flip
  refine toOption_parse_eq (fun _ => exists_parse_of_sameLexemes sames) fun _ parsed => ?_
  obtain ⟨statement, parsedBack, -⟩ := exists_parse_of_sameLexemes samesBack parsed
  exact ⟨statement, parsedBack⟩

/-- A comment before a word that stands right behind a number, and small letters in the words. -/
theorem parse_relaid_comment :
    (Tape.ofText .mySQL "SELECT 1FROM t").isClean = true ∧
      Relaid "SELECT 1FROM t".toList 0 (Tape.ofText .mySQL "SELECT 1FROM t").tokens.dropLast
        "select 1/*;*/From t\n".toList ∧
      (parse .mySQL .empty "select 1/*;*/From t\n").toOption.map Statement.withoutPlaces =
        some ⟨.select, ⟨[⟨"t", []⟩]⟩, [⟨0, "t"⟩], [], none⟩ := by
  have clean : (Tape.ofText .mySQL "SELECT 1FROM t").isClean = true := by decide +kernel
  have tokens : (Tape.ofText .mySQL "SELECT 1FROM t").tokens.dropLast =
      [⟨.reserved .SELECT, "SELECT", 0, 6⟩, ⟨.literal .int, "1", 7, 8⟩,
        ⟨.reserved .FROM, "FROM", 8, 12⟩, ⟨.literal .identifier, "t", 13, 14⟩] := by
    decide +kernel
  have comment : Layout "/*;*/".toList :=
    @Layout.blockComment [';'] [] (by unfold IsBlockBody; decide) .nil
  have isRelaid : Relaid "SELECT 1FROM t".toList 0
      (Tape.ofText .mySQL "SELECT 1FROM t").tokens.dropLast "select 1/*;*/From t\n".toList := by
    rw [tokens]
    refine @Relaid.token _ _ _ _ [] "select".toList [] _ .nil .nil (.inr ⟨⟨_, rfl⟩, by decide⟩) ?_
    refine @Relaid.token _ _ _ _ [] ['1'] [] _ .nil .nil (.inl (by decide)) ?_
    refine @Relaid.token _ _ _ _ "/*;*/".toList "From".toList [] _ comment .nil
      (.inr ⟨⟨_, rfl⟩, by decide⟩) ?_
    exact @Relaid.token _ _ _ _ [] ['t'] ['\n'] _ .nil (.blank (by decide) .nil) (.inl (by decide))
      .rest
  obtain ⟨-, -, same⟩ := parse_relaid .empty clean isRelaid
  have parsed : parse .mySQL .empty "SELECT 1FROM t" =
      .ok ⟨.select, ⟨[⟨"t", []⟩]⟩, [⟨13, "t"⟩], [], none⟩ :=
    parse_of_toOption (by decide +kernel)
  rw [parsed] at same
  exact ⟨clean, isRelaid, same⟩

end Reading

end SqlSharding
