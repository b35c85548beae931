import LoxLexer.Proofs.History
import LoxLexer.Proofs.Places

/-!
# The log of a session

A run is logged finding by finding, in the order in which they begin in its source text:
a token is traced, and a fault is warned of.  Two summaries stand behind them.  The
second one counts the warnings since the last clearing, over all runs since then, though
the session that writes it counts failures and not records.
-/

namespace LoxLexer

/-! ## Records, word by word -/

/-- The record of a token: its line, the name of its kind, and its characters as they are
escaped between quotes. -/
def Token.trace (token : Token) : Record :=
  ⟨.trace,
    "line ".toList ++ Decimal.digits token.line ++ ": ".toList ++
      (token.kind.name ++ ' ' ::
        ('"' :: token.lexeme.flatMap Escape.textCharacter ++ ['"']))⟩

/-- The record of a fault: its line, and the sentence that tells of it. -/
def LocatedFault.warning (located : LocatedFault) : Record :=
  ⟨.warn,
    "line ".toList ++ Decimal.digits located.line ++ ": ".toList ++
      located.fault.wording⟩

/-- A token is traced, and a fault is warned of. -/
def Event.record : Event → Record
  | token found => found.trace
  | fault located => located.warning

namespace Record

theorem ofToken_eq_trace (token : Token) :
    ofToken token = token.trace :=
  rfl

theorem ofFault_eq_warning (located : LocatedFault) :
    ofFault located = located.warning := by
  have written : ofFault located =
      ⟨.warn, onLine located.line located.fault.message⟩ := rfl
  rw [written, Fault.message_eq_wording]
  rfl

theorem ofEvent_eq_record (event : Event) :
    ofEvent event = event.record := by
  cases event with
  | token found => exact ofToken_eq_trace found
  | fault located => exact ofFault_eq_warning located

/-- What stands behind the findings of a run: how many characters were scanned, how many
tokens they gave and on which line they end, and how many warnings there have been. -/
def summaries (characters tokens lastLine warnings : Nat) : List Record :=
  [⟨.debug,
      "scanned ".toList ++ Decimal.digits characters ++
        " chars into ".toList ++ Decimal.digits tokens ++
        " tokens over ".toList ++ Decimal.digits lastLine ++ " lines".toList⟩,
    ⟨.debug,
      "run produced ".toList ++ Decimal.digits tokens ++
        " tokens, ".toList ++ Decimal.digits warnings ++ " errors so far".toList⟩]

/-! ## Levels of records -/

def isTrace (record : Record) : Bool :=
  record.level == .trace

def isWarning (record : Record) : Bool :=
  record.level == .warn

/-- The records of one level are those of one part of the events. -/
theorem filter_map_record
    {Part : Type} {wanted : Record → Bool} {part? : Event → Option Part}
    {written : Part → Record}
    (told : ∀ event : Event,
      Option.guard wanted event.record = (part? event).map written)
    (events : List Event) :
    (events.map Event.record).filter wanted = (events.filterMap part?).map written := by
  rw [← List.filterMap_eq_filter, List.filterMap_map, List.map_filterMap]
  congr
  funext event
  exact told event

theorem filter_isTrace_record (events : List Event) :
    (events.map Event.record).filter isTrace =
      (events.filterMap Event.token?).map Token.trace := by
  apply filter_map_record
  intro event
  cases event with
  | token found => rfl
  | fault located => rfl

theorem filter_isWarning_record (events : List Event) :
    (events.map Event.record).filter isWarning =
      (events.filterMap Event.fault?).map LocatedFault.warning := by
  apply filter_map_record
  intro event
  cases event with
  | token found => rfl
  | fault located => rfl

end Record

/-! ## The records of one run -/

/-- Records that tell what the scan of a source text finds. -/
structure TellsFindings (source : Text) (told : List Record) : Prop where
  /-- One record for each finding, in the order in which they begin. -/
  inOrder : told =
    (Scanner.ofText source).findings.map fun finding => finding.event.record
  ascending : (Scanner.ofText source).findings.Pairwise fun earlier later =>
    earlier.start < later.start
  traces : told.filter Record.isTrace = (scan source).tokens.dropLast.map Token.trace
  warnings : told.filter Record.isWarning = (scan source).faults.map LocatedFault.warning
  /-- The one token without a trace. -/
  ends : (scan source).tokens = (scan source).tokens.dropLast ++
    [⟨.endOfInput, [], .absent, 1 + source.countP Character.isLineFeed⟩]

theorem Scan.dropLast_tokens (scan : Scan) :
    scan.tokens.dropLast = scan.events.filterMap Event.token? :=
  List.dropLast_concat

theorem tellsFindings_map_record (source : Text) :
    TellsFindings source ((scan source).events.map Event.record) where
  inOrder := by
    rw [← Scanner.map_event_findings, List.map_map]
    rfl
  ascending := Scanner.pairwise_findings source
  traces := by
    rw [Record.filter_isTrace_record, Scan.dropLast_tokens]
  warnings := Record.filter_isWarning_record _
  ends := by
    rw [Scan.dropLast_tokens, Scan.tokens, lastLine_scan]
    rfl

theorem Session.records_run (session : Session) (source : Text) :
    (session.run source).records =
      (scan source).events.map Event.record ++
        Record.summaries source.length
          (((scan source).events.map Event.record).countP Record.isTrace + 1)
          (1 + source.countP Character.isLineFeed)
          (session.run source).session.failures.length := by
  have traces : ((scan source).events.map Event.record).countP Record.isTrace + 1 =
      (scan source).tokens.length := by
    rw [List.countP_eq_length_filter, Record.filter_isTrace_record, List.length_map,
      Scan.tokens, List.length_append, List.length_singleton]
  have records : (scan source).events.map Event.record =
      (scan source).events.map Record.ofEvent :=
    List.map_congr_left fun event _ => (Record.ofEvent_eq_record event).symm
  rw [traces, records, ← lastLine_scan]
  rfl

theorem Session.countP_isWarning_run (session : Session) (source : Text) :
    (session.run source).records.countP Record.isWarning =
      (scan source).faults.length := by
  rw [records_run, List.countP_append, List.countP_eq_length_filter,
    Record.filter_isWarning_record, List.length_map]
  rfl

/-! ## The records of a history -/

namespace Reply

/-- What a step adds to the log. -/
def records : Reply → List Record
  | ran _ records => records
  | cleared => []
  | diagnosed _ => []

/-- What has been logged behind the last clearing. -/
def recordsSinceClearing (replies : List Reply) : List Record :=
  (replies.rtakeWhile fun reply => reply ≠ .cleared).flatMap records

@[simp]
theorem recordsSinceClearing_nil :
    recordsSinceClearing [] = [] := by
  simp [recordsSinceClearing]

theorem recordsSinceClearing_cleared (before : List Reply) :
    recordsSinceClearing (before ++ [.cleared]) = [] := by
  simp [recordsSinceClearing]

theorem recordsSinceClearing_concat
    {reply : Reply} (keeps : reply ≠ .cleared) (before : List Reply) :
    recordsSinceClearing (before ++ [reply]) =
      recordsSinceClearing before ++ reply.records := by
  rw [recordsSinceClearing, List.rtakeWhile_concat_pos _ _ _ (by simpa using keeps),
    List.flatMap_append, List.flatMap_singleton, recordsSinceClearing]

end Reply

namespace Session

/-- What the steps of a session answer, one after the other. -/
def replies (session : Session) (steps : List Step) : List Reply :=
  (session.history steps).map Prod.snd

theorem replies_concat (session : Session) (before : List Step) (step : Step) :
    session.replies (before ++ [step]) =
      session.replies before ++ [((session.behind before).perform step).2] := by
  rw [replies, history_append, List.map_append, replies]
  rfl

/-- Every failure on record has been warned of, and every warning is on record. -/
theorem countP_isWarning_sinceClearing (filename? : Option Text) (steps : List Step) :
    (Reply.recordsSinceClearing ((new filename?).replies steps)).countP Record.isWarning =
      (failuresOnRecord filename? steps).length := by
  induction steps using List.reverseRecOn with
  | nil =>
      simp [replies, history, failuresOnRecord]
  | append_singleton before step induction =>
      rw [replies_concat]
      cases step with
      | run source =>
          rw [Reply.recordsSinceClearing_concat Reply.noConfusion, List.countP_append,
            induction, failuresOnRecord_concat Step.noConfusion, List.length_append]
          congr 1
          rw [perform, Reply.records, countP_isWarning_run]
          simp [Step.source?, failuresOfText]
      | clear =>
          rw [perform, Reply.recordsSinceClearing_cleared, failuresOnRecord_clear]
          rfl
      | diagnose source? coloured =>
          rw [Reply.recordsSinceClearing_concat Reply.noConfusion, List.countP_append,
            induction, failuresOnRecord_concat Step.noConfusion, List.length_append]
          rfl

/-- Behind whatever steps a source text is run, its log tells the findings of its scan
in order: a trace for each token but the last, a warning for each fault.  Then come two
summaries, which count the characters, the traces and one token more, the lines, and all
warnings since the last clearing.  Clearing itself logs nothing. -/
theorem log_tells_runs (filename? : Option Text) (before later : List Step) :
    (∀ source, ∃ session told,
      ((new filename?).history (before ++ .run source :: later))[before.length]? =
        some (session, .ran (scan source).tokens
          (told ++ Record.summaries source.length (told.countP Record.isTrace + 1)
            (1 + source.countP Character.isLineFeed)
            ((Reply.recordsSinceClearing
              ((new filename?).replies (before ++ [.run source]))).countP
                Record.isWarning))) ∧
      TellsFindings source told) ∧
    ∃ session reply,
      ((new filename?).history (before ++ .clear :: later))[before.length]? =
        some (session, reply) ∧
      reply.records = [] := by
  have recalls := (recalls_new filename?).behind before
  rw [List.nil_append] at recalls
  constructor
  · intro source
    have run := (recalls.run source).failures
    refine ⟨(((new filename?).behind before).run source).session,
      (scan source).events.map Event.record, ?_, tellsFindings_map_record source⟩
    rw [getElem?_history, perform, countP_isWarning_sinceClearing, ← run, ← records_run]
    rfl
  · exact ⟨_, _, getElem?_history _ before .clear later, rfl⟩

end Session
end LoxLexer
