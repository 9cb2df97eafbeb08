import HeaderOrder.Path
import HeaderOrder.Pipeline

/-!
# Sessions of the window

A session holds the three paths that the window shows, its status, the text of its log area, and
the files.  Each action of the user changes the session; which message boxes it showed and whether
it failed is reported beside the session.  The status is set several times while files are
processed, so a session also remembers what the action has set it to so far.

The log file lists the definitions before and after they were put in order.  It is emptied when the
files are processed by the button.  A session takes no location for write-protected.
-/

namespace HeaderOrder.Window

/-! ## The window -/

/-- A request to the window system. -/
inductive Call where
  | title (text : Text)
  | geometry (text : Text)
  | minimumSize (width height : Nat)
  | mainLoop
  deriving Repr, DecidableEq

/-- The requests that open the window, in order. -/
def opening : List Call :=
  [.title "C++ Function Reorderer".toList, .geometry "800x600".toList, .minimumSize 700 500,
   .mainLoop]

/-! ## Sessions -/

/-- What the status line shows. -/
inductive Status where
  | ready
  | processing
  deriving Repr, DecidableEq

def Status.label : Status → Text
  | .ready => "Ready".toList
  | .processing => "Processing...".toList

/-- A message box. -/
inductive Dialog where
  | warning (text : Text)
  | error (text : Text)
  deriving Repr, DecidableEq

def Dialog.title : Dialog → Text
  | .warning _ => "Warning".toList
  | .error _ => "Error".toList

def Dialog.text : Dialog → Text
  | .warning text => text
  | .error text => text

/-- Why an action fails. -/
inductive Failure where
  | file (error : FileError)
  | matching (error : MatchError)
  /-- The path has no name whose suffix could be replaced. -/
  | emptyName (path : Path)
  deriving Repr, DecidableEq

def Failure.message : Failure → Text
  | .file error => error.message
  | .matching error => error.message
  | .emptyName path => path.shown ++ " has an empty name".toList

/-- The state of the window and the files. -/
structure Session where
  headerPath : Text
  sourcePath : Text
  outputFolder : Text
  status : Status
  /-- What the status was set to since the current action began. -/
  statuses : List Status
  log : Text
  files : FileTree
  deriving Repr, DecidableEq

/-- The fields of the window that hold a path. -/
inductive Field where
  | headerPath
  | sourcePath
  | outputFolder
  deriving Repr, DecidableEq

/-- What can happen in a session. -/
inductive Action where
  /-- Choose the header in a file dialog, which answers with a path or with nothing. -/
  | browseHeader (answer : Text)
  /-- Choose the implementation file in a file dialog. -/
  | browseSource (answer : Text)
  /-- Put a text into a field. -/
  | edit (field : Field) (text : Text)
  /-- Process the files whose paths are shown. -/
  | process
  /-- Process given files into a given folder. -/
  | run (header source folder : Text)
  /-- Write a message into the log area. -/
  | say (message : Text)
  /-- Write a message into the log file. -/
  | note (message : Text)
  /-- Something else puts nodes under the working directory. -/
  | interfere (changes : List (List Text × Node))
  deriving Repr, DecidableEq

/-- A session after an action, and what the action did on the way. -/
structure Step where
  session : Session
  dialogs : List Dialog
  failure : Option Failure
  deriving Repr, DecidableEq

def Step.statuses (step : Step) : List Status :=
  step.session.statuses

namespace Session

def new (files : FileTree) : Session :=
  ⟨[], [], [], .ready, [], [], files⟩

def logFile : Text := "log.txt".toList

/-- A session after a quiet action. -/
def quiet (session : Session) : Step :=
  ⟨session, [], none⟩

def setStatus (session : Session) (status : Status) : Session :=
  { session with status := status, statuses := session.statuses ++ [status] }

/-- Write a message into the log area. -/
def say (session : Session) (message : Text) : Session :=
  { session with log := session.log ++ message ++ ['\n'] }

/-- Write messages into the log area, one after the other. -/
def sayAll (session : Session) (messages : List Text) : Session :=
  messages.foldl say session

/-- Go on with changed files, or stop at the error that came instead. -/
def attempt (session : Session) (change : Except FileError FileTree)
    (next : Session → Session × Option Failure) : Session × Option Failure :=
  match change with
  | .ok files => next { session with files := files }
  | .error error => (session, some (.file error))

/-- The lines that list definitions in the log file. -/
def listing (title : String) (definitions : List Definition) : Text :=
  (title.toList :: definitions.map Report.place).flatMap (· ++ ['\n'])

/-- The path of the result: the implementation file's name in the output folder. -/
def resultPath (folder source : Text) : Path :=
  match (Path.ofText source).name? with
  | some name => (Path.ofText folder).child name
  | none => Path.ofText folder

/-- Note the definitions, arrange them, write the result into the folder, and note them again. -/
def arrangeInto (session : Session) (declarations : Declarations) (round : Round)
    (folder source : Text) : Session × Option Failure :=
  let result := (resultPath folder source).toText
  session.attempt (session.files.appendText logFile
      (listing "--- Functions in CPP Before Sorting ---" round.definitions)) fun session =>
    let session := session.sayAll round.report
    session.attempt (session.files.makeDirectory (Path.ofText folder).toText) fun session =>
      session.attempt (session.files.writeText result round.result) fun session =>
        match Definition.ofSource declarations round.result with
        | .error error => (session, some (.matching error))
        | .ok arranged =>
            session.attempt (session.files.appendText logFile
                (listing "--- Functions in CPP After Sorting ---" arranged)) fun session =>
              ((session.say (Job.success result)).setStatus .ready, none)

/-- Read the files, and arrange the definitions that they hold, if there are any. -/
def work (session : Session) (header source folder : Text) : Session × Option Failure :=
  match Job.readInputs session.files header source with
  | .error error => (session, some (.file error))
  | .ok (headerText, sourceText) =>
      let declarations := Declarations.ofHeader headerText
      match Round.of declarations sourceText with
      | .error error => (session, some (.matching error))
      | .ok round =>
          if round.definitions.isEmpty then
            ((session.say Job.noDefinitions).setStatus .ready, none)
          else session.arrangeInto declarations round folder source

/-- Report the failure of the work, if it failed, and be ready again. -/
def finish (outcome : Session × Option Failure) : Session :=
  match outcome with
  | (session, none) => session
  | (session, some failure) =>
      (session.say (Job.processingError failure.message)).setStatus .ready

/-- Process given files into a given folder. -/
def run (session : Session) (header source folder : Text) : Session :=
  finish (session.work header source folder)

/-- Process the files whose paths are shown. -/
def process (session : Session) : Step :=
  if session.headerPath.isEmpty then
    ⟨session, [.error "Please select a header file.".toList], none⟩
  else if session.sourcePath.isEmpty then
    ⟨session, [.error "Please select an implementation file.".toList], none⟩
  else
    let cleared := { session with log := [] }
    match cleared.files.writeText logFile [] with
    | .error error => ⟨cleared, [], some (.file error)⟩
    | .ok files =>
        let started := { cleared with files := files }.setStatus .processing
        quiet (started.run session.headerPath session.sourcePath session.outputFolder)

/-- The folder for results beside a header. -/
def folderBeside (header : Text) : Text :=
  ((Path.ofText header).parent.child "reordered_output".toList).toText

/-- Take the answer of the dialog for the header.  The implementation file beside it is taken too,
if it is there. -/
def chooseHeader (session : Session) (answer : Text) : Step :=
  let chosen := { session with headerPath := answer }
  match (Path.ofText answer).withSuffix? ".cpp".toList with
  | none => ⟨chosen, [], some (.emptyName (Path.ofText answer))⟩
  | some source =>
      let folder := folderBeside answer
      match session.files.isThere source.toText with
      | .error error => ⟨chosen, [], some (.file error)⟩
      | .ok true => quiet { chosen with sourcePath := source.toText, outputFolder := folder }
      | .ok false =>
          ⟨{ chosen with outputFolder := folder },
            [.warning ("No corresponding .cpp file found for ".toList ++ answer)], none⟩

def edit (session : Session) (text : Text) : Field → Session
  | .headerPath => { session with headerPath := text }
  | .sourcePath => { session with sourcePath := text }
  | .outputFolder => { session with outputFolder := text }

/-- Write a message into the log file. -/
def note (session : Session) (message : Text) : Step :=
  match session.files.appendText logFile (message ++ ['\n']) with
  | .ok files => quiet { session with files := files }
  | .error error => ⟨session, [], some (.file error)⟩

/-- What an action does. -/
def act (session : Session) : Action → Step
  | .browseHeader answer => if answer.isEmpty then quiet session else session.chooseHeader answer
  | .browseSource answer =>
      quiet (if answer.isEmpty then session else { session with sourcePath := answer })
  | .edit field text => quiet (session.edit text field)
  | .process => session.process
  | .run header source folder => quiet (session.run header source folder)
  | .say message => quiet (session.say message)
  | .note message => session.note message
  | .interfere changes =>
      quiet { session with
        files := changes.foldl (fun files change => files.place change.1 change.2) session.files }

/-- A session after an action, which begins with no status set yet. -/
def step (session : Session) (action : Action) : Step :=
  { session with statuses := [] }.act action

/-- The steps of a sequence of actions, one for each. -/
def steps (session : Session) : List Action → List Step
  | [] => []
  | action :: rest =>
      let taken := session.step action
      taken :: taken.session.steps rest

end Session

end HeaderOrder.Window
