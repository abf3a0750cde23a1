import Ingest.Failure
import Ingest.Command.Arguments
import Ingest.Command.LogFilter
import Ingest.Load.Attempt
import Ingest.Payload
import Ingest.Settings.Document

/-!
# The program

Two commands: `load` delivers a file of rows to the store and prints what came of it, `frame` prints
the payload that a load would send. Both read their settings first. What the program asks of the
outside, files and the store alike, are the questions of a dialogue. When it gives up it writes a
report.
-/

/-! ## Reports

What the program says when it gives up: what it was about to do, and the chain of causes. Several
causes are numbered. A chain may go on with causes that are not told; then the ones that are told
are numbered all the same. -/

namespace Ingest.Command

/-- **A report**: what the program was about to do, and why it could not, from the outermost cause
to the innermost that is told. -/
structure Report where
  headline : String
  causes : List String
  /-- Whether the chain goes on. -/
  goesOn : Bool
  deriving DecidableEq, Repr

namespace Report

def plain (headline : String) : Report := ⟨headline, [], false⟩

def numberChars (n : Nat) : List Char :=
  let ds := Nat.toDigits 10 n
  List.replicate (5 - ds.length) ' ' ++ ds ++ [':', ' ']

/-- A text with every line but the first set in, so that a cause of several lines stands in one
column. -/
def indent (blanks : Nat) (cs : List Char) : List Char :=
  cs.flatMap fun c => if c = '\n' then c :: List.replicate blanks ' ' else [c]

/-- A cause on lines of its own, with its number or without. -/
def causeChars (number : Option Nat) (cause : String) : List Char :=
  match number with
  | some n => '\n' :: numberChars n ++ indent 7 cause.toList
  | none => '\n' :: List.replicate 4 ' ' ++ indent 4 cause.toList

def numbered : Nat → List String → List Char
  | _, [] => []
  | n, c :: cs => causeChars (some n) c ++ numbered (n + 1) cs

/-- The causes. A single one is not numbered, unless the chain goes on behind it. -/
def chain (r : Report) : List Char :=
  match r.causes, r.goesOn with
  | [c], false => causeChars none c
  | cs, _ => numbered 0 cs

/-- **The text of a report.** It begins with the headline, and there is nothing behind it if no
cause is told. -/
def text (r : Report) : String :=
  let causes := if r.causes.isEmpty then [] else "\n\nCaused by:".toList ++ r.chain
  String.ofList ("Error: ".toList ++ r.headline.toList ++ causes)

/-- A fault of the settings as the cause. Behind a document that cannot be read stands the cause
that its reader gives, which is not told. -/
def ofSettings (headline : String) (f : Settings.Fault) : Report :=
  match f with
  | .unreadable _ cause => ⟨headline, [f.message, cause.message], false⟩
  | .malformed => ⟨headline, [f.message], true⟩
  | _ => ⟨headline, [f.message], false⟩

/-- A failure as the cause. What lies behind a request that came to nothing is not told, as it is
told by the system in words of its own. -/
def ofFailure (headline : String) (f : Failure) : Report :=
  match f with
  | .transport _ => ⟨headline, [f.message], true⟩
  | .settings fault => ofSettings headline fault
  | _ => ⟨headline, [f.message], false⟩

end Report

/-! ## Commands -/

/-- A question of the program to the outside. Beyond the moves of a load these are what it reads,
and the one thing in which two runs on the same input may differ. -/
inductive Ask where
  | file (path : String)
  | input
  /-- A name that was never given before. -/
  | freshName
  | load (move : Move)

abbrev Ask.Answer : Ask → Type
  | .file _ => FileContents
  | .input => Bytes
  | .freshName => String
  | .load move => move.Answer

/-- A dialogue of the program, with those outside of it. -/
abbrev Session (α : Type) := Dialogue Ask.Answer α

def readFile (path : String) : Session FileContents := Dialogue.question (Ask.file path)

def readInput : Session Bytes := Dialogue.question Ask.input

def freshName : Session String := Dialogue.question Ask.freshName

/-- The dialogue of a load as a part of the program's. Its questions are put unchanged, and so are
the answers given. -/
def ofTalk {α : Type} (t : Talk α) : Session α := t.rephrase Ask.load fun _ r => r

/-- **How the program ends**: its exit code, what it has printed, and its report. Nothing is printed
before the end, so a run that fails prints nothing but its report. -/
structure Ending where
  code : Nat
  output : Bytes
  report : Option String
  deriving DecidableEq, Repr

namespace Ending

def success (output : Bytes) : Ending := ⟨0, output, none⟩

def failure (r : Report) : Ending := ⟨1, [], some r.text⟩

/-- A command line that cannot be followed. How the program is used is told in place of a report. -/
def misuse : Ending := ⟨2, [], none⟩

end Ending

def programName : String := "starload"

def version : String := "0.1.0"

def usage : String :=
  "Usage: starload [-c FILE] [-l FILTER] load -t TABLE [-d DATABASE] [--label LABEL] [-o json|compact] ROWS\n" ++
  "       starload [-c FILE] [-l FILTER] frame [-f csv|json] ROWS\n"

/-- A step of the program: it gives a value, or a report with which the program ends. -/
abbrev Step (α : Type) := Session (Except Report α)

/-- Whether a path stands for what is piped in: a hyphen, whatever slashes and points follow. These
add nothing to a path, so all of these paths are the one of the hyphen. -/
def isInput (path : String) : Bool :=
  match path.toList with
  | '-' :: rest => rest.isEmpty || (rest.head? = some '/' && (Url.cutSegments false rest).all
      fun s => s = [] || s = ['.'])
  | _ => false

/-- The rows of a file or of what is piped in. Both are read to their end before they are cut into
rows. -/
def readRows (path : String) : Step (List Bytes) :=
  if isInput path then readInput.bind fun bs => .done (.ok (Rows.split bs))
  else
    (readFile path).bind fun
      | .ok bs => .done (.ok (Rows.split bs))
      | .error cause => .done (.error ⟨"failed to read rows from " ++ path, [cause.message], false⟩)

/-- The settings of the program, from a file if one is named. Those of the loader are not checked
here. -/
def readSettings (path : Option String) : Step ProgramSettings :=
  match path with
  | none => .done (.ok ProgramSettings.default)
  | some path =>
    (readFile path).bind fun contents =>
      match ProgramSettings.ofFile path contents with
      | .ok s => .done (.ok s)
      | .error f => .done (.error (.ofSettings ("failed to load config from " ++ path) f))

/-! ### Framing -/

/-- The settings with another format, if one is given. It takes the place of the property, and
nothing else is touched. -/
def withFormat (s : Settings) (format : Option String) : Settings :=
  match format with
  | some f => s.withProperty Settings.formatKey f
  | none => s

/-- **Prints the payload that a load would send.** The store is not asked, and what the payload does
not depend on need not be set. -/
def frame (s : Settings) (rows : String) (format : Option String) : Step Bytes :=
  match (withFormat s format).framing with
  | .error f => .done (.error (.ofSettings "invalid framing settings" f))
  | .ok framing => (readRows rows).andThen fun rows => .done (.ok (framing.payload rows))

/-! ### Loading -/

/-- The database of a load: the given one before the one in the settings. -/
def databaseOf (s : Settings) (given : Option String) : Except Report String :=
  match given.or s.database with
  | some d => .ok d
  | none => .error (.plain "no database given: pass --database or set stream_load.database")

/-- The label of a load: the given one, or a new one that no other load has. -/
def labelOf (given : Option String) : Session String :=
  match given with
  | some l => .done l
  | none => freshName.bind fun name => .done (programName ++ "-" ++ name)

def outcomeText (o : Outcome) (compact : Bool) : String :=
  (if compact then o.toJson.compact else o.toJson.indented) ++ "\n"

/-- Delivers a batch. The loader is made last, when the rows have been read, and so its faults are
told last. -/
def deliver (s : Settings) (b : Batch) (compact : Bool) : Step Bytes :=
  match Loader.ofSettings s with
  | .error f => .done (.error (.ofFailure "failed to create stream loader" f))
  | .ok loader =>
    (ofTalk (loader.load b)).bind fun
      | .error f => .done (.error (.ofFailure ("stream load of label " ++ b.label ++ " failed") f))
      | .ok o => .done (.ok (Bytes.ofText (outcomeText o compact)))

/-- **Delivers a file of rows**: the database is found, the label is given, the rows are read, and
then the store is asked. -/
def load (s : Settings) (rows table : String) (database label : Option String) (compact : Bool) :
    Step Bytes :=
  match databaseOf s database with
  | .error r => .done (.error r)
  | .ok database =>
    (labelOf label).bind fun label =>
      (readRows rows).andThen fun rows =>
        deliver s (Batch.ofRows database table label rows) compact

def perform (s : Settings) : Task → Step Bytes
  | .load rows table database label compact => load s rows table database label compact
  | .frame rows format => frame s rows format

/-! ### The whole program -/

/-- Follows a command line. `logDefault` is the filter that the surroundings set, which counts if
neither the command line nor the settings name one. -/
def follow (a : Arguments) (logDefault : Option String) : Step Bytes :=
  (readSettings a.config).andThen fun s =>
    let filter := LogFilter.choose [a.logLevel, s.logLevel, logDefault]
    if LogFilter.isValid filter then perform s.load a.task
    else .done (.error (.plain ("invalid log filter " ++ Settings.backquoted filter)))

/-- **Runs the program.** Help and the version are printed as a success; everything else that cannot
be followed is a misuse. -/
def run (words : List String) (logDefault : Option String) : Session Ending :=
  match Arguments.read words with
  | .error .help => .done (.success (Bytes.ofText usage))
  | .error .version => .done (.success (Bytes.ofText (programName ++ " " ++ version ++ "\n")))
  | .error .misuse => .done .misuse
  | .ok a =>
    (follow a logDefault).bind fun
      | .ok output => .done (.success output)
      | .error r => .done (.failure r)

end Ingest.Command
