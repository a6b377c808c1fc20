import SqlSharding.CommandLine
import SqlSharding.Proofs.InputLine
import SqlSharding.Proofs.Layout
import SqlSharding.Proofs.Lexing.Trimming
import SqlSharding.Proofs.Shell.Command

/-!
# The shell and the command line

The shell answers a line as if it were the only one: with what the command `parse` shows for the line
in the dialect that was last switched to. A line that is refused, or that names no dialect, leaves the
session as it is.
-/

namespace SqlSharding

open Text

/-- The statement is shown without the places of the names. -/
theorem Session.statementLines_of_withoutPlaces {session : Session} {statement statement' : Statement}
    (same : statement'.withoutPlaces = statement.withoutPlaces) :
    session.statementLines statement' = session.statementLines statement := by
  have shown (some : Statement) : session.statementLines some.withoutPlaces =
      session.statementLines some := rfl
  rw [← shown, same, shown]

/-- Blanks around a text change nothing about the statement that is read but the places of the names. -/
theorem Reading.parse_trim (dialect : Dialect) (rule : ShardingRule) (text : String) :
    (parse dialect rule (trim text)).toOption.map Statement.withoutPlaces =
      (parse dialect rule text).toOption.map Statement.withoutPlaces := by
  have sames := Tape.sameLexemes_of_trim dialect text
  have samesBack := (sames.imp fun _ _ => Token.SameLexeme.symm).flip
  refine toOption_parse_eq (fun _ => exists_parse_of_sameLexemes samesBack) fun _ parsed => ?_
  obtain ⟨statement, parsedBack, -⟩ := exists_parse_of_sameLexemes sames parsed
  exact ⟨statement, parsedBack⟩

/-- A text has lines to show exactly if it is parsed, and they are those of its statement. -/
theorem Session.parseLines_ok_iff {session : Session} {text : String} {lines : List String} :
    session.parseLines text = .ok lines ↔
      ∃ statement, parse session.dialect session.rule text = .ok statement ∧
        session.statementLines statement = lines := by
  unfold parseLines
  cases parse session.dialect session.rule text <;> simp

/-- What is shown of a statement does not depend on the places of its names. -/
theorem Session.parseLines_of_same {session : Session} {text other : String} {lines : List String}
    (same : (parse session.dialect session.rule other).toOption.map Statement.withoutPlaces =
      (parse session.dialect session.rule text).toOption.map Statement.withoutPlaces)
    (shown : session.parseLines text = .ok lines) : session.parseLines other = .ok lines := by
  obtain ⟨statement, parsed, rfl⟩ := parseLines_ok_iff.mp shown
  rw [parsed] at same
  obtain ⟨statement', parsed', same⟩ := Option.map_eq_some_iff.mp same
  exact parseLines_ok_iff.mpr
    ⟨statement', Reading.parse_of_toOption parsed', statementLines_of_withoutPlaces same⟩

/-- Blanks at either end of a text change nothing in what is shown for it. -/
theorem Session.parseLines_trim_ok_iff {session : Session} {text : String} {lines : List String} :
    session.parseLines (trim text) = .ok lines ↔ session.parseLines text = .ok lines :=
  have same := Reading.parse_trim session.dialect session.rule text
  ⟨parseLines_of_same same.symm, parseLines_of_same same⟩

/-- A text of one line is one without the blanks at its ends, too. -/
theorem Text.OneLine.trim {text : String} (oneLine : OneLine text) : OneLine (trim text) := by
  obtain ⟨front, behind, whole, -⟩ := exists_trimChars text.toList
  intro isIn
  rw [Text.trim, String.toList_ofList] at isIn
  rw [OneLine, whole] at oneLine
  exact oneLine (List.mem_append_right _ (List.mem_append_left _ isIn))

/-- The session after lines that do not end the shell: they change nothing but the dialect. -/
def Session.after (session : Session) (lines : List String) : Session :=
  { session with dialect := (lines.filterMap Shell.switchedTo?).getLastD session.dialect }

/-- The session after several lines is the one after the first of them, and then after the others. -/
theorem Session.after_cons (session : Session) (line : String) (lines : List String) :
    session.after (line :: lines) = (session.after [line]).after lines := by
  cases switched : Shell.switchedTo? line with
  | none => simp [after, switched]
  | some dialect => simp only [after, List.filterMap_cons_some switched, List.getLastD_cons,
      List.filterMap_nil, List.getLastD_nil]

namespace Shell

variable {session : Session} {line : String} {before : List String}

/-- A line that ends the shell is answered with a farewell. -/
theorem answer_of_leaves (leaves : Leaves line) :
    answer session (.ofLine line) = ⟨["Goodbye!"], none⟩ := by
  rw [Command.ofLine_of_leaves leaves]
  rfl

/-- A line that does not end the shell changes the dialect if it names one, and nothing else. -/
theorem next_answer (stays : ¬Leaves line) :
    (answer session (.ofLine line)).next? = some (session.after [line]) := by
  have unchanged (noName : dialectName? line = none) : session.after [line] = session := by
    simp [Session.after, switchedTo?, noName]
  rw [Command.ofLine_eq]
  by_cases isBlank : trimChars line.toList = []
  · have isEmpty : toLower (trim line) = "" := by
      rw [trim, isBlank]
      rfl
    rw [if_pos isBlank, unchanged (dialectName?_eq_none isEmpty (by decide))]
    rfl
  rw [if_neg isBlank, if_neg stays]
  by_cases isHelp : toLower (trim line) = "help"
  · rw [if_pos isHelp, unchanged (dialectName?_eq_none isHelp (by decide))]
    rfl
  rw [if_neg isHelp]
  by_cases isKeywords : toLower (trim line) = "keywords"
  · rw [if_pos isKeywords, unchanged (dialectName?_eq_none isKeywords (by decide))]
    rfl
  rw [if_neg isKeywords]
  cases named : dialectName? line with
  | none =>
    rw [unchanged named]
    simp only [answer]
    split <;> rfl
  | some name =>
    have switched : switchedTo? line = (Dialect.ofUserName (trim name)).toOption := by
      rw [switchedTo?, named, Option.bind_some, Dialect.toOption_ofUserName_trim]
    simp only [answer]
    cases known : Dialect.ofUserName (trim name) with
    | ok dialect =>
      replace switched : switchedTo? line = some dialect := by rw [switched, known]; rfl
      simp [Session.after, switched]
    | error unknown =>
      replace switched : switchedTo? line = none := by rw [switched, known]; rfl
      simp [Session.after, switched]

/-- What the shell shows for a line is what the command `parse` shows for it, or one message if the
command is refused. -/
structure ShowsAsParsed (session : Session) (line : String) (shown : List String) : Prop where
  parsed : ∀ input outcome, CommandLine.runCommand session input (.parse line) = .ok outcome →
    outcome = .success shown
  refused : ∀ input failure, CommandLine.runCommand session input (.parse line) = .error failure →
    ∃ message, shown = ["Error: " ++ message] ∧ (OneLine line → OneLine message)

/-- A line with a statement is answered with what the command `parse` shows. -/
theorem showsAsParsed_answer (isStatement : IsStatement line) :
    ShowsAsParsed session line (answer session (.ofLine line)).lines := by
  rw [Command.ofLine_of_isStatement isStatement, answer]
  cases whole : session.parseLines line with
  | ok lines =>
    rw [Session.parseLines_trim_ok_iff.mpr whole]
    refine ⟨fun input outcome ran => ?_, fun input failure ran => ?_⟩
    · rw [CommandLine.runCommand, whole] at ran
      exact (Except.ok.inj ran).symm
    · rw [CommandLine.runCommand, whole] at ran
      cases ran
  | error failure =>
    cases trimmed : session.parseLines (trim line) with
    | ok lines =>
      rw [Session.parseLines_trim_ok_iff.mp trimmed] at whole
      cases whole
    | error cause =>
      refine ⟨fun input outcome ran => ?_, fun input failure ran => ?_⟩
      · rw [CommandLine.runCommand, whole] at ran
        cases ran
      · exact ⟨cause.line, rfl, fun oneLine => Session.oneLine_of_parseLines oneLine.trim trimmed⟩

/-- A line that does not end the shell is answered, and the others are answered in the session after
it. -/
theorem converse_cons (stays : ¬Leaves line) (others : List String) :
    converse session (line :: others) =
      let later := converse (session.after [line]) others
      ⟨(answer session (.ofLine line)).lines ++ later.lines, later.next?⟩ := by
  simp only [converse, next_answer stays]

/-- Behind lines that do not end the shell the others are answered in the session after them. -/
theorem converse_append (stay : ∀ earlier ∈ before, ¬Leaves earlier) (others : List String) :
    converse session (before ++ others) =
      let later := converse (session.after before) others
      ⟨(converse session before).lines ++ later.lines, later.next?⟩ := by
  induction before generalizing session with
  | nil => rfl
  | cons line before inductionHypothesis =>
    rw [List.forall_mem_cons] at stay
    rw [List.cons_append, converse_cons stay.1, converse_cons stay.1, inductionHypothesis stay.2,
      session.after_cons line before]
    simp only [List.append_assoc]

/-- Lines of which none ends the shell leave a session behind them. -/
theorem next_converse (stay : ∀ earlier ∈ before, ¬Leaves earlier) :
    (converse session before).next? = some (session.after before) := by
  have whole := @converse_append session before stay []
  rw [List.append_nil] at whole
  rw [whole]
  rfl

/-- No session is left exactly if one of the lines ends the shell. -/
theorem next_converse_eq_none_iff {lines : List String} :
    (converse session lines).next? = none ↔ ∃ line ∈ lines, Leaves line := by
  induction lines generalizing session with
  | nil => simp [converse]
  | cons line others inductionHypothesis =>
    by_cases leaves : Leaves line
    · simp [converse, answer_of_leaves leaves, leaves]
    · simp [converse_cons leaves, inductionHypothesis, leaves]

/-- How a line is answered behind others that do not end the shell. -/
structure AnswersInTurn (session : Session) (before : List String) (line : String)
    (later : List String) : Prop where
  /-- The rule is that of the beginning, and the dialect the one that was last switched to. -/
  current : (converse session before).next? = some (session.after before)
  /-- No later line is answered. -/
  leaves : Leaves line →
    converse session (before ++ line :: later) = ⟨(converse session before).lines ++ ["Goodbye!"], none⟩
  goesOn : ¬Leaves line → ∃ shown,
    (IsStatement line → ShowsAsParsed (session.after before) line shown) ∧
      converse session (before ++ line :: later) =
        let rest := converse (session.after (before ++ [line])) later
        ⟨(converse session before).lines ++ shown ++ rest.lines, rest.next?⟩

/-- Lines are answered in order up to the first that ends the shell, and a statement among them as the
command `parse` answers it in the dialect that was last switched to. An input delivers lines without a
line feed in them, and a run greets and answers them. -/
theorem answers_lines_in_turn :
    (∀ (session : Session) (before : List String) (line : String) (later : List String),
      (∀ earlier ∈ before, ¬Leaves earlier) → AnswersInTurn session before line later) ∧
    ∀ (session : Session) (input : String),
      let delivery := InputLine.ofInput input
      (∀ line ∈ delivery.texts, OneLine line) ∧
        (run session input).1 = greeting session :: (converse session delivery.texts).lines ++
          if (∃ line ∈ delivery.texts, Leaves line) ∨ delivery.isBroken then [] else ["CTRL-D"] := by
  refine ⟨fun session before line later stay => ⟨next_converse stay, fun leaves => ?_, fun stays => ?_⟩,
    fun session input => ⟨fun line isIn => InputLine.oneLine_of_mem_ofInput isIn, ?_⟩⟩
  · rw [converse_append stay, converse, answer_of_leaves leaves]
  · refine ⟨_, showsAsParsed_answer, ?_⟩
    have stayAll : ∀ earlier ∈ before ++ [line], ¬Leaves earlier := by
      simpa [or_imp, forall_and] using ⟨stay, stays⟩
    have rest := @converse_append session _ stayAll later
    rw [List.append_assoc, List.singleton_append, @converse_append session _ stay [line],
      converse_cons stays] at rest
    rw [rest]
    simp [converse]
  · unfold run
    simp only [Option.isNone_iff_eq_none, next_converse_eq_none_iff]
    by_cases leaves : ∃ line ∈ (InputLine.ofInput input).texts, Leaves line
    · rw [if_pos leaves, if_pos (.inl leaves), List.append_nil]
    by_cases isBroken : (InputLine.ofInput input).isBroken = true
    · rw [if_neg leaves, if_pos isBroken, if_pos (.inr isBroken), List.append_nil]
    · rw [if_neg leaves, if_neg isBroken, if_neg (not_or.mpr ⟨leaves, isBroken⟩)]

/-- A name in brackets, behind a line that switches to the dialect with such brackets. -/
theorem answers_lines_in_turn_switch :
    let session : Session := ⟨.mySQL, .empty⟩
    let line := " SELECT 1 FROM [t]\t"
    (∀ earlier ∈ [" Dialect MSSQL"], ¬Leaves earlier) ∧ ¬Leaves line ∧ IsStatement line ∧
      session.after [" Dialect MSSQL"] = ⟨.sqlServer, .empty⟩ ∧
      ∃ shown, CommandLine.unlines shown = "Statement: SELECT statement (DQL)\nTables (1):\n  t\n" ∧
        (converse session [" Dialect MSSQL", line, "Exit ", "help"]).lines =
          ["Dialect set to Microsoft SQL Server"] ++ shown ++ ["Goodbye!"] := by
  intro session line
  obtain ⟨inTurn, -⟩ := answers_lines_in_turn
  have stay : ∀ earlier ∈ [" Dialect MSSQL"], ¬Leaves earlier := by decide +kernel
  have stays : ¬Leaves line := by decide +kernel
  have isStatement : IsStatement line :=
    ⟨⟨'S', by decide, by decide⟩, by decide +kernel, by decide +kernel⟩
  have after : session.after [" Dialect MSSQL"] = ⟨.sqlServer, .empty⟩ := by decide +kernel
  have ran : CommandLine.runCommand ⟨.sqlServer, .empty⟩ "" (.parse line) =
      .ok { exitCode := 0, output := "Statement: SELECT statement (DQL)\nTables (1):\n  t\n" } := by
    decide +kernel
  have first : (converse session [" Dialect MSSQL"]).lines = ["Dialect set to Microsoft SQL Server"] := by
    decide +kernel
  have last : (converse (session.after [" Dialect MSSQL", line]) ["Exit ", "help"]).lines =
      ["Goodbye!"] := by
    decide +kernel
  obtain ⟨shown, shows, answered⟩ := (inTurn session _ line ["Exit ", "help"] stay).goesOn stays
  have same := (shows isStatement).parsed "" _ (after ▸ ran)
  refine ⟨stay, stays, isStatement, after, shown, (congrArg CommandLine.Outcome.output same).symm, ?_⟩
  have lines := congrArg Answer.lines answered
  simp only [List.cons_append, List.nil_append, first, last] at lines
  exact lines

end Shell

end SqlSharding
