import HeaderOrder.Proofs.WindowRuns

/-!
# Sessions of any length, and their status

A session is followed through any sequence of actions.  What a new window has and every action
keeps, holds after all of them.

The status is set when the processing of files begins, and again when it ends.  It can end in
several places: no definition was found, the result was delivered, or some act failed and the
failure is caught.  Work that goes well sets the status itself, and work that fails has not set it
yet, so the one who catches the failure does.  In each case the status is set to ready exactly
once.
-/

namespace HeaderOrder.Window.Session

/-! ## The session after a sequence of actions -/

def after (session : Session) (actions : List Action) : Session :=
  actions.foldl (fun session action => (session.step action).session) session

@[simp] theorem after_nil (session : Session) : session.after [] = session := rfl

@[simp] theorem after_cons (session : Session) (action : Action) (rest : List Action) :
    session.after (action :: rest) = (session.step action).session.after rest := rfl

/-- What the first session has, and each of the actions keeps, the last session has. -/
theorem after_induction {motive : Session → Prop} {session : Session} {actions : List Action}
    (first : motive session)
    (keeps : ∀ action ∈ actions, ∀ session, motive session → motive (session.step action).session) :
    motive (session.after actions) := by
  induction actions generalizing session with
  | nil => exact first
  | cons action rest ih =>
      rw [after_cons]
      apply ih
      · exact keeps action (List.mem_cons_self ..) session first
      · intro later member
        exact keeps later (List.mem_cons_of_mem action member)

/-- Each step of a sequence is that of one of its actions, taken after the actions before it. -/
theorem exists_of_mem_steps {session : Session} {actions : List Action} {taken : Step}
    (member : taken ∈ session.steps actions) :
    ∃ earlier action later, actions = earlier ++ action :: later ∧
      taken = (session.after earlier).step action := by
  induction actions generalizing session with
  | nil => cases member
  | cons action rest ih =>
      rw [steps, List.mem_cons] at member
      rcases member with rfl | member
      · exact ⟨[], action, rest, rfl, rfl⟩
      · obtain ⟨earlier, next, later, rfl, same⟩ := ih member
        exact ⟨action :: earlier, next, later, rfl, same⟩

/-! ## The status while files are processed -/

/-- Whether work that began in a session leaves one setting of the status behind: it has set it to
ready if it went well, and has not set it if it failed. -/
def SetsOnce (session : Session) : Session × Option Failure → Prop
  | (ended, none) => ended.status = .ready ∧ ended.statuses = session.statuses ++ [.ready]
  | (stopped, some _) => stopped.statuses = session.statuses

/-- An act that may fail goes before work that sets the status once. -/
theorem setsOnce_attempt {start session : Session} (unset : session.statuses = start.statuses)
    (change : Except FileError FileTree) {next : Session → Session × Option Failure}
    (goes : ∀ files, start.SetsOnce (next { session with files := files })) :
    start.SetsOnce (session.attempt change next) := by
  cases change with
  | error error => exact unset
  | ok files => exact goes files

theorem setsOnce_arrangeInto (session : Session) (declarations : Declarations) (round : Round)
    (folder source : Text) :
    session.SetsOnce (session.arrangeInto declarations round folder source) := by
  unfold arrangeInto
  apply setsOnce_attempt rfl
  intro noted
  rw [sayAll_eq]
  apply setsOnce_attempt rfl
  intro prepared
  apply setsOnce_attempt rfl
  intro written
  cases Definition.ofSource declarations round.result with
  | error error => rfl
  | ok arranged =>
      apply setsOnce_attempt rfl
      intro ended
      exact ⟨rfl, rfl⟩

theorem setsOnce_work (session : Session) (header source folder : Text) :
    session.SetsOnce (session.work header source folder) := by
  unfold work
  cases Job.readInputs session.files header source with
  | error error => rfl
  | ok texts =>
      obtain ⟨headerText, sourceText⟩ := texts
      dsimp only
      cases Round.of (Declarations.ofHeader headerText) sourceText with
      | error error => rfl
      | ok round =>
          dsimp only
          split
          · exact ⟨rfl, rfl⟩
          · exact setsOnce_arrangeInto ..

/-- Whatever happens while files are processed, it ends with the status set to ready, once. -/
theorem status_run (session : Session) (header source folder : Text) :
    (session.run header source folder).status = .ready ∧
      (session.run header source folder).statuses = session.statuses ++ [.ready] := by
  have once := setsOnce_work session header source folder
  unfold run
  cases outcome : session.work header source folder with
  | mk ended failure =>
      rw [outcome] at once
      cases failure with
      | none => exact once
      | some failure =>
          constructor
          · rfl
          · exact congrArg (· ++ [Status.ready]) once

/-! ## The status after each action -/

/-- Whether the processing of the chosen files begins: both are given, and the log file can be
emptied. -/
def Begins (session : Session) : Prop :=
  session.headerPath ≠ [] ∧ session.sourcePath ≠ [] ∧
    ∃ emptied, session.files.writeText logFile [] = .ok emptied

/-- The button sets the status to processing and then to ready, or does not set it at all if the
processing does not begin. -/
theorem status_process (session : Session) :
    (session.Begins ∧ session.process.session.status = .ready ∧
        session.process.statuses = session.statuses ++ [.processing, .ready]) ∨
      (¬ session.Begins ∧ session.process.session.status = session.status ∧
        session.process.statuses = session.statuses) := by
  unfold process Begins
  split_ifs with noHeader noSource
  · right
    rw [List.isEmpty_iff] at noHeader
    exact ⟨fun begins => begins.1 noHeader, rfl, rfl⟩
  · right
    rw [List.isEmpty_iff] at noSource
    exact ⟨fun begins => begins.2.1 noSource, rfl, rfl⟩
  · rw [List.isEmpty_iff] at noHeader noSource
    dsimp only
    cases emptied : session.files.writeText logFile [] with
    | error error =>
        right
        refine ⟨?_, rfl, rfl⟩
        rintro ⟨-, -, files, written⟩
        cases written
    | ok files =>
        left
        have ends := status_run ({ session with log := [], files := files }.setStatus .processing)
          session.headerPath session.sourcePath session.outputFolder
        refine ⟨⟨noHeader, noSource, files, rfl⟩, ends.1, ?_⟩
        exact ends.2.trans (List.append_assoc ..)

/-- What an action sets the status to, one after the other. -/
theorem status_step (session : Session) (action : Action) :
    ((session.step action).session.status = session.status ∧ (session.step action).statuses = []) ∨
      ((session.step action).session.status = .ready ∧
        ((session.step action).statuses = [.ready] ∨
          (session.step action).statuses = [.processing, .ready])) := by
  unfold step
  cases action with
  | browseHeader answer =>
      left
      unfold act chooseHeader
      dsimp only
      split_ifs
      · exact ⟨rfl, rfl⟩
      · split
        · exact ⟨rfl, rfl⟩
        · split <;> exact ⟨rfl, rfl⟩
  | browseSource answer =>
      left
      unfold act
      dsimp only
      split_ifs <;> exact ⟨rfl, rfl⟩
  | edit field text =>
      left
      cases field <;> exact ⟨rfl, rfl⟩
  | process =>
      rcases status_process { session with statuses := [] } with
        ⟨-, ready, given⟩ | ⟨-, same, given⟩
      · exact Or.inr ⟨ready, Or.inr given⟩
      · exact Or.inl ⟨same, given⟩
  | run header source folder =>
      right
      have ends := status_run { session with statuses := [] } header source folder
      exact ⟨ends.1, Or.inl ends.2⟩
  | say message => exact Or.inl ⟨rfl, rfl⟩
  | note message =>
      left
      unfold act note
      dsimp only
      split <;> exact ⟨rfl, rfl⟩
  | interfere changes => exact Or.inl ⟨rfl, rfl⟩

/-- The window is never left processing.  After every action of a session, whether it fails or
not, the status is ready; and an action has set it not at all, or to ready alone, or to processing
and then, once, to ready. -/
theorem status_ready_after_steps (files : FileTree) (actions : List Action) :
    ∀ taken ∈ (new files).steps actions, taken.session.status = .ready ∧
      (taken.statuses = [] ∨ taken.statuses = [.ready] ∨
        taken.statuses = [.processing, .ready]) := by
  intro taken member
  obtain ⟨earlier, action, later, -, rfl⟩ := exists_of_mem_steps member
  have before : ((new files).after earlier).status = .ready := by
    apply after_induction (motive := fun session => session.status = .ready)
    · rfl
    · intro action _ session ready
      rcases status_step session action with ⟨same, -⟩ | ⟨settled, -⟩
      · exact same.trans ready
      · exact settled
  rcases status_step ((new files).after earlier) action with ⟨same, unset⟩ | ⟨ready, given⟩
  · exact ⟨same.trans before, Or.inl unset⟩
  · exact ⟨ready, Or.inr given⟩

/-- The paths of two files are typed, and the files are processed. -/
def typedActions : List Action :=
  [.edit .headerPath "a.h".toList, .edit .sourcePath "a.cpp".toList, .process]

/-- The status is ready again after files were processed that are not there. -/
theorem status_ready_after_steps_missing :
    ∃ taken ∈ (new (FileTree.bare ["w".toList])).steps typedActions,
      taken.statuses = [.processing, .ready] ∧ taken.session.log =
          "Error processing files: [Errno 2] No such file or directory: 'a.h'\n".toList ∧
        taken.session.status = .ready := by
  have member : ((new (FileTree.bare ["w".toList])).after (typedActions.take 2)).step .process ∈
      (new (FileTree.bare ["w".toList])).steps typedActions := by
    simp [typedActions, steps]
  exact ⟨_, member, by decide +kernel, by decide +kernel,
    (status_ready_after_steps _ typedActions _ member).1⟩

end HeaderOrder.Window.Session
