/-!
# The command line

A command line is read word by word. Options may stand before and after the name of a command;
those of the whole program are admitted at both places, and the later one counts. A word that asks
for help or for the version ends the reading at once, and so does a word that is of no use.
-/

namespace Ingest.Command

/-- A word of the command line, by its first characters. What an option makes of its value is not
decided here. -/
inductive Word where
  /-- Everything behind it is plain. -/
  | divider
  | long (name : List Char) (value : Option String)
  | short (letter : Char) (rest : List Char)
  | plain
  deriving DecidableEq, Repr

/-- What a word is. A single hyphen is plain, since it is the name of what is piped in. -/
def readWord (s : String) : Word :=
  match s.toList with
  | ['-', '-'] => .divider
  | '-' :: '-' :: cs =>
    match cs.dropWhile (· ≠ '=') with
    | [] => .long cs none
    | _ :: value => .long (cs.takeWhile (· ≠ '=')) (some (String.ofList value))
  | '-' :: c :: cs => .short c cs
  | _ => .plain

/-- The options that take a value. Help and version take none and are not among them. -/
inductive Flag where
  | config
  | logLevel
  | table
  | database
  | label
  | output
  | format
  deriving DecidableEq, Repr

/-- An option with its spellings: the long one, and a letter if there is one for it. -/
structure Spelling where
  option : Flag
  long : String
  short : Option Char
  /-- An option that names a file must not be empty. -/
  isPath : Bool

/-- Where a word stands: in front of the name of a command, or behind it. Other options are admitted
at each of these places. -/
inductive Level where
  | program
  | load
  | frame
  deriving DecidableEq, Repr

namespace Level

def shared : List Spelling := [
  ⟨.config, "config", some 'c', true⟩,
  ⟨.logLevel, "log-level", some 'l', false⟩]

/-- The options at a level. Those of the whole program come last, and no spelling stands for two. -/
def spellings : Level → List Spelling
  | .program => shared
  | .load => [
      ⟨.table, "table", some 't', false⟩,
      ⟨.database, "database", some 'd', false⟩,
      ⟨.label, "label", none, false⟩,
      ⟨.output, "output", some 'o', false⟩] ++ shared
  | .frame => ⟨.format, "format", some 'f', false⟩ :: shared

def long? (l : Level) (name : List Char) : Option Spelling :=
  l.spellings.find? (·.long.toList == name)

def short? (l : Level) (c : Char) : Option Spelling := l.spellings.find? (·.short == some c)

end Level

/-- Why the reading of a command line ends early. Only the last one is a fault. -/
inductive Stop where
  | help
  | version
  | misuse
  deriving DecidableEq, Repr

/-- **What has been read at a level**: the values of options, and the file with the rows if it was
named. -/
structure Found where
  values : List (Flag × String)
  rows : Option String

namespace Found

def none : Found := ⟨[], Option.none⟩

def value? (f : Found) (o : Flag) : Option String :=
  (f.values.find? (·.1 == o)).map Prod.snd

/-- Gives an option its value; it has one value at most at each level. The name of a file must not
be empty. -/
def give (f : Found) (s : Spelling) (value : String) : Except Stop Found :=
  if (f.value? s.option).isSome ∨ (s.isPath ∧ value = "") then .error .misuse
  else .ok { f with values := (s.option, value) :: f.values }

/-- Takes a plain word behind the name of a command: the file with the rows. There is one, and no
further plain word. -/
def giveRows (f : Found) (word : String) : Except Stop Found :=
  if f.rows.isSome ∨ word = "" then .error .misuse else .ok { f with rows := some word }

end Found

/-- Whether a word can be the value of the option in front of it. A word that looks like an option
cannot, and has to be given behind an equals sign. -/
def isValue (s : String) : Bool := readWord s == .plain

/-- What the words at a level come to: what was found, and the name of a command with the words
behind it. The words end without one behind a command. -/
abbrev Scan := Except Stop (Found × Option (String × List String))

/-- The word for help or the version. The version is told in front of a command only. -/
def stopLong? (l : Level) (name : List Char) : Option Stop :=
  if name = "help".toList then some .help
  else if name = "version".toList ∧ l = .program then some .version
  else none

def stopShort? (l : Level) (c : Char) : Option Stop :=
  if c = 'h' then some .help else if c = 'V' ∧ l = .program then some .version else none

/-- The value inside a word behind its letter, where an equals sign may stand in front of it. -/
def innerValue (cs : List Char) : String :=
  match cs with
  | '=' :: cs => String.ofList cs
  | cs => String.ofList cs

/-- Plain words behind the divider. In front of a command there is no place for one. -/
def scanPlain (l : Level) : Found → List String → Scan
  | f, [] => .ok (f, none)
  | f, w :: ws =>
    if l = .program then .error .misuse
    else
      match f.giveRows w with
      | .ok f => scanPlain l f ws
      | .error e => .error e

/-- **Reads the words at a level**, up to the name of a command if this is the level in front of it.
The first word that is of no use ends the reading, whatever stands behind. -/
def scan (l : Level) : Found → List String → Scan
  | f, [] => .ok (f, none)
  | f, w :: ws =>
    match readWord w with
    | .divider => scanPlain l f ws
    | .plain =>
      if l = .program then .ok (f, some (w, ws))
      else
        match f.giveRows w with
        | .ok f => scan l f ws
        | .error e => .error e
    | .long name (some v) =>
      match l.long? name with
      | none => .error .misuse
      | some s =>
        match f.give s v with
        | .ok f => scan l f ws
        | .error e => .error e
    | .long name none =>
      match stopLong? l name, l.long? name with
      | some e, _ => .error e
      | none, none => .error .misuse
      | none, some s =>
        match ws with
        | [] => .error .misuse
        | v :: ws =>
          if isValue v then
            match f.give s v with
            | .ok f => scan l f ws
            | .error e => .error e
          else .error .misuse
    | .short c rest =>
      match stopShort? l c, l.short? c with
      | some e, _ => .error e
      | none, none => .error .misuse
      | none, some s =>
        match rest, ws with
        | [], [] => .error .misuse
        | [], v :: ws =>
          if isValue v then
            match f.give s v with
            | .ok f => scan l f ws
            | .error e => .error e
          else .error .misuse
        | c :: cs, ws =>
          match f.give s (innerValue (c :: cs)) with
          | .ok f => scan l f ws
          | .error e => .error e

/-! ## Commands -/

/-- What the program is asked to do, with what the command line says of it. What it leaves open is
taken from settings later. -/
inductive Task where
  | load (rows table : String) (database label : Option String) (compact : Bool)
  | frame (rows : String) (format : Option String)
  deriving DecidableEq, Repr

/-- **A command line that can be followed.** Every required option is there; whether the values are
of any use is found out when it is followed. -/
structure Arguments where
  config : Option String
  logLevel : Option String
  task : Task
  deriving DecidableEq, Repr

/-- The task of a command. Without a file of rows there is none, nor is there a load without a
table. -/
def taskOf (l : Level) (f : Found) : Except Stop Task :=
  match l, f.rows, f.value? .table with
  | .load, some rows, some table =>
    .ok (.load rows table (f.value? .database) (f.value? .label)
      (f.value? .output == some "compact"))
  | .frame, some rows, _ => .ok (.frame rows (f.value? .format))
  | _, _, _ => .error .misuse

def level? : String → Option Level
  | "load" => some .load
  | "frame" => some .frame
  | _ => none

/-- What the words behind a request for help come to. Help can be asked for a command, and for
help. -/
def helpStop : List String → Stop
  | [] => .help
  | [name] => if (level? name).isSome ∨ name = "help" then .help else .misuse
  | _ => .misuse

/-- Reads the words behind the name of a command. An option that was given before it counts if it is
not given again. -/
def readCommand (before : Found) (name : String) (ws : List String) : Except Stop Arguments :=
  match level? name with
  | none => if name = "help" then .error (helpStop ws) else .error .misuse
  | some l => do
    let (f, _) ← scan l Found.none ws
    let task ← taskOf l f
    .ok ⟨(f.value? .config).or (before.value? .config),
      (f.value? .logLevel).or (before.value? .logLevel), task⟩

/-- **Reads a command line.** Without the name of a command there is nothing to follow. -/
def Arguments.read (ws : List String) : Except Stop Arguments := do
  match ← scan .program Found.none ws with
  | (_, none) => .error .misuse
  | (f, some (name, ws)) => readCommand f name ws

end Ingest.Command
