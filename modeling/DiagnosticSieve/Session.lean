import DiagnosticSieve.FileTree
import DiagnosticSieve.Log

/-!
Sessions: computations that change files and of which the user sees what they do. What was done
before a session is refused stays done.
-/

namespace DiagnosticSieve

inductive Event
  | record (r : LogRecord)
  | text (lines : String)
  | output (bytes : ByteArray)
  | started (arguments : List String)

structure Progress (ε α : Type) where
  events : List Event
  files : FileTree
  result : Except ε α

namespace Progress

variable {ε α : Type}

def records (p : Progress ε α) : List LogRecord :=
  p.events.filterMap fun
    | .record r => some r
    | _ => none

/-- What a reader of the standard error stream sees, log records apart. -/
def errorText (p : Progress ε α) : String :=
  String.join (p.events.map fun
    | .text lines => lines ++ "\n"
    | _ => "")

def output (p : Progress ε α) : ByteArray :=
  p.events.foldl
    (fun bytes event =>
      match event with
      | .output more => bytes ++ more
      | _ => bytes)
    ByteArray.empty

def compilerArguments (p : Progress ε α) : Option (List String) :=
  p.events.findSome? fun
    | .started arguments => some arguments
    | _ => none

end Progress

def Session (ε α : Type) : Type := FileTree → Progress ε α

structure WriteError where
  path : String
  reason : OsError
  deriving DecidableEq, Repr

def WriteError.message (e : WriteError) : String :=
  "Could not write " ++ e.path ++ ": " ++ e.reason.message

namespace Session

variable {ε α β : Type}

protected def pure (value : α) : Session ε α := fun files => ⟨[], files, .ok value⟩

protected def bind (x : Session ε α) (next : α → Session ε β) : Session ε β := fun files =>
  match (x files).result with
  | .ok value =>
    let rest := next value (x files).files
    ⟨(x files).events ++ rest.events, rest.files, rest.result⟩
  | .error e => ⟨(x files).events, (x files).files, .error e⟩

instance : Monad (Session ε) where
  pure := Session.pure
  bind := Session.bind

def refuse (e : ε) : Session ε α := fun files => ⟨[], files, .error e⟩

def emit (events : List Event) : Session ε Unit := fun files => ⟨events, files, .ok ()⟩

def note (r : LogRecord) : Session ε Unit := emit [.record r]

def say (lines : String) : Session ε Unit := emit [.text lines]

def consult (question : FileTree → Attempt ε α) : Session ε α := fun files =>
  ⟨(question files).records.map .record, files, (question files).result⟩

def pathExists (path : String) : Session ε Bool := fun files =>
  ⟨[], files, .ok (files.exists? path)⟩

def write (path : String) (contents : ByteArray) : Session WriteError Unit := fun files =>
  match files.write path contents with
  | .ok files => ⟨[], files, .ok ()⟩
  | .error reason => ⟨[], files, .error ⟨path, reason⟩⟩

def mapError {ε' : Type} (f : ε → ε') (x : Session ε α) : Session ε' α := fun files =>
  ⟨(x files).events, (x files).files, (x files).result.mapError f⟩

theorem pure_apply (value : α) (files : FileTree) :
    (pure value : Session ε α) files = ⟨[], files, .ok value⟩ := rfl

theorem bind_apply_ok (x : Session ε α) (next : α → Session ε β) (files : FileTree) (value : α)
    (h : (x files).result = .ok value) :
    (x >>= next) files =
      ⟨(x files).events ++ (next value (x files).files).events, (next value (x files).files).files,
        (next value (x files).files).result⟩ := by
  show Session.bind x next files = _
  simp only [Session.bind, h]

theorem bind_apply_error (x : Session ε α) (next : α → Session ε β) (files : FileTree) (e : ε)
    (h : (x files).result = .error e) :
    (x >>= next) files = ⟨(x files).events, (x files).files, .error e⟩ := by
  show Session.bind x next files = _
  simp only [Session.bind, h]

end Session

end DiagnosticSieve
