import LoxLexer.Proofs.Context
import Mathlib.Data.List.DropRight

/-!
# Histories of a session

A session is run, cleared and shown in any order.  What it holds behind a step is
told by the steps alone: the faults of the source texts that have been run since
the last clearing, as their own scans report them.  Showing failures changes
nothing, and a run gives the tokens of its own text, whatever went before.
-/

namespace LoxLexer

/-! ## What steps leave behind -/

namespace Step

/-- The source text that a step runs. -/
def source? : Step → Option Text
  | run source => some source
  | _ => none

/-- The source texts that are run behind the last clearing. -/
def sourcesSinceClearing (steps : List Step) : List Text :=
  (steps.rtakeWhile fun step => step ≠ .clear).filterMap source?

@[simp]
theorem sourcesSinceClearing_nil :
    sourcesSinceClearing [] = [] := by
  simp [sourcesSinceClearing]

theorem sourcesSinceClearing_clear (before : List Step) :
    sourcesSinceClearing (before ++ [.clear]) = [] := by
  simp [sourcesSinceClearing]

theorem sourcesSinceClearing_concat
    {step : Step} (keeps : step ≠ .clear) (before : List Step) :
    sourcesSinceClearing (before ++ [step]) =
      sourcesSinceClearing before ++ step.source?.toList := by
  rw [sourcesSinceClearing, List.rtakeWhile_concat_pos _ _ _ (by simpa using keeps),
    List.filterMap_append, sourcesSinceClearing]
  cases runs : step.source? with
  | none => simp [runs]
  | some source => simp [runs]

end Step

/-- The faults of a source text as failures located in a file. -/
def failuresOfText (filename? : Option Text) (source : Text) : List Failure :=
  (scan source).faults.map fun located =>
    .lexical located.fault.wording ⟨located.line, filename?⟩

/-- What is on record behind a row of steps. -/
def failuresOnRecord (filename? : Option Text) (steps : List Step) : List Failure :=
  (Step.sourcesSinceClearing steps).flatMap (failuresOfText filename?)

theorem failuresOnRecord_clear (filename? : Option Text) (before : List Step) :
    failuresOnRecord filename? (before ++ [.clear]) = [] := by
  rw [failuresOnRecord, Step.sourcesSinceClearing_clear, List.flatMap_nil]

theorem failuresOnRecord_concat
    {step : Step} (keeps : step ≠ .clear) (filename? : Option Text)
    (before : List Step) :
    failuresOnRecord filename? (before ++ [step]) =
      failuresOnRecord filename? before ++
        step.source?.toList.flatMap (failuresOfText filename?) := by
  rw [failuresOnRecord, Step.sourcesSinceClearing_concat keeps, List.flatMap_append,
    failuresOnRecord]

namespace Session

/-! ## One step -/

/-- A session that holds what is on record behind a row of steps. -/
structure Recalls (session : Session) (filename? : Option Text)
    (steps : List Step) : Prop where
  filename : session.filename? = filename?
  failures : session.failures = failuresOnRecord filename? steps

theorem recalls_new (filename? : Option Text) :
    (new filename?).Recalls filename? [] :=
  ⟨rfl, by simp [new, failuresOnRecord]⟩

section OneStep

variable {session : Session} {filename? : Option Text} {before : List Step}

theorem Recalls.run
    (recalls : session.Recalls filename? before) (source : Text) :
    (session.run source).session.Recalls filename? (before ++ [.run source]) := by
  refine ⟨recalls.filename, ?_⟩
  have added : (scan source).faults.map session.failureOf =
      failuresOfText filename? source := by
    rw [failuresOfText, ← recalls.filename]
    simp only [← Fault.message_eq_wording]
    rfl
  rw [failures_run, recalls.failures, added, failuresOnRecord_concat Step.noConfusion]
  simp [Step.source?]

theorem Recalls.clear
    (recalls : session.Recalls filename? before) :
    session.clear.Recalls filename? (before ++ [.clear]) := by
  refine ⟨recalls.filename, ?_⟩
  rw [failuresOnRecord_clear, Session.clear]

theorem Recalls.diagnose
    (recalls : session.Recalls filename? before) (source? : Option Text)
    (coloured : Bool) :
    session.Recalls filename? (before ++ [.diagnose source? coloured]) := by
  refine ⟨recalls.filename, ?_⟩
  rw [recalls.failures, failuresOnRecord_concat Step.noConfusion]
  simp [Step.source?]

/-- Every step brings the record up to date. -/
theorem Recalls.perform
    (recalls : session.Recalls filename? before) (step : Step) :
    (session.perform step).1.Recalls filename? (before ++ [step]) := by
  cases step with
  | run source => exact recalls.run source
  | clear => exact recalls.clear
  | diagnose source? coloured => exact recalls.diagnose source? coloured

end OneStep

/-! ## All steps -/

theorem length_history (session : Session) (steps : List Step) :
    (session.history steps).length = steps.length := by
  induction steps generalizing session with
  | nil =>
      rfl
  | cons step rest induction =>
      rw [history, List.length_cons, induction, List.length_cons]

/-- The session behind a row of steps. -/
def behind (session : Session) (steps : List Step) : Session :=
  steps.foldl (fun current step => (current.perform step).1) session

theorem history_append (session : Session) (before later : List Step) :
    session.history (before ++ later) =
      session.history before ++ (session.behind before).history later := by
  induction before generalizing session with
  | nil =>
      rfl
  | cons step rest induction =>
      rw [List.cons_append, history, induction, history, behind, behind, List.foldl_cons,
        List.cons_append]

theorem Recalls.behind
    {session : Session} {filename? : Option Text} {earlier : List Step}
    (recalls : session.Recalls filename? earlier) (steps : List Step) :
    (session.behind steps).Recalls filename? (earlier ++ steps) := by
  induction steps generalizing session earlier with
  | nil =>
      rwa [List.append_nil]
  | cons step rest induction =>
      have further := induction (recalls.perform step)
      rwa [List.append_assoc, List.singleton_append] at further

theorem getElem?_history (session : Session) (before : List Step) (step : Step)
    (later : List Step) :
    (session.history (before ++ step :: later))[before.length]? =
      some ((session.behind before).perform step) := by
  rw [history_append, ← length_history session before, List.getElem?_append_right (Nat.le_refl _),
    Nat.sub_self]
  rfl

/-- A step of a history is performed on a session that holds the record of all
the steps before it. -/
theorem Recalls.exists_performed
    {session : Session} {filename? : Option Text} {earlier : List Step}
    (recalls : session.Recalls filename? earlier)
    (before : List Step) (step : Step) (later : List Step) :
    ∃ current : Session, current.Recalls filename? (earlier ++ before) ∧
      (session.history (before ++ step :: later))[before.length]? =
        some (current.perform step) :=
  ⟨session.behind before, recalls.behind before, getElem?_history session before step later⟩

theorem hasFailed_iff (session : Session) :
    session.hasFailed = true ↔ session.failures ≠ [] := by
  simp [hasFailed]

/-- Behind every step of a history the session holds the faults of the source texts
run since the last clearing, in order and each with the line and the message of its
own scan, and it has failed just where it holds any.  A run gives the tokens of its
own text. -/
theorem history_records_faults_since_clearing
    (filename? : Option Text) (steps : List Step) :
    ((new filename?).history steps).length = steps.length ∧
    ∀ before step later, steps = before ++ step :: later →
      ∃ session reply,
        ((new filename?).history steps)[before.length]? = some (session, reply) ∧
        session.failures = failuresOnRecord filename? (before ++ [step]) ∧
        (session.hasFailed = true ↔ session.failures ≠ []) ∧
        ∀ source, step = .run source →
          ∃ records, reply = .ran (scan source).tokens records := by
  refine ⟨length_history _ steps, ?_⟩
  intro before step later divided
  obtain ⟨current, holds, found⟩ :=
    (recalls_new filename?).exists_performed before step later
  rw [List.nil_append] at holds
  refine ⟨(current.perform step).1, (current.perform step).2, ?_,
    (holds.perform step).failures, hasFailed_iff _, ?_⟩
  · rw [divided, found]
  · intro source isRun
    rw [isRun]
    exact ⟨_, rfl⟩

end Session
end LoxLexer
