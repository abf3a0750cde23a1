import Ingest.Bytes
import Ingest.Payload
import Ingest.Text.Basic
import Ingest.Url.Host

/-!
# What is wrong with settings

Settings come from a file, which may not be readable, and from the values in it, which may not be
usable. A fault names the field and the reason. The wording is built here and nowhere else.
-/

/-! ## Files

What comes of reading a file: its bytes, or why there are none. -/

namespace Ingest

/-- **Why a file cannot be read.** The common ones are named, so that the wording does not depend on
the system. -/
inductive FileFault where
  | notFound
  | denied
  | notDirectory
  | isDirectory
  | nameTooLong
  /-- The file has been read, and is no text. -/
  | notText
  /-- A fault in words of the system's. -/
  | stated (text : String)
  deriving DecidableEq, Repr

namespace FileFault

def numbered (text : String) (code : Nat) : String := text ++ " (os error " ++ toString code ++ ")"

def message : FileFault → String
  | .notFound => numbered "No such file or directory" 2
  | .denied => numbered "Permission denied" 13
  | .notDirectory => numbered "Not a directory" 20
  | .isDirectory => numbered "Is a directory" 21
  | .nameTooLong => numbered "File name too long" 36
  | .notText => "stream did not contain valid UTF-8"
  | .stated text => text

/-- The fault with a number of the system's, among those that have a wording of their own. -/
def ofNumber? : Nat → Option FileFault
  | 2 => some .notFound
  | 13 => some .denied
  | 20 => some .notDirectory
  | 21 => some .isDirectory
  | 36 => some .nameTooLong
  | _ => none

end FileFault

/-- What comes of reading a file: all of its bytes, or none. Whether they are text is not asked
yet. -/
abbrev FileContents := Except FileFault Bytes

end Ingest

/-! ## Faults -/

namespace Ingest.Settings

/-- The fields that can be at fault. A field is named as it stands in a document, whether it was
read from one or set by a call. -/
inductive Field where
  | hosts
  | connectTimeout
  | socketTimeout
  | pollUnit
  | format
  | rowDelimiter
  | properties
  | timeoutProperty
  deriving DecidableEq, Repr

def Field.name : Field → String
  | .hosts => "load_urls"
  | .connectTimeout => "connect_timeout_ms"
  | .socketTimeout => "socket_timeout_ms"
  | .pollUnit => "label_poll_unit_ms"
  | .format => "format"
  | .rowDelimiter => "row_delimiter"
  | .properties => "properties"
  | .timeoutProperty => "properties.timeout"

def backquoted (s : String) : String := "\x60" ++ s ++ "\x60"

/-- Why the value of a field is unusable. The reason says what was found in it, and a fault puts the
name of the field in front. -/
inductive Reason where
  | blankHost (entry : String)
  | notPositive
  | unknownFormat (name : String)
  | delimiter (fault : Delimiter.Fault)
  | numeral (text : String) (fault : Numeral.Fault)
  | headerName (key : String)
  | headerValue (key : String)
  | address (shown : String) (fault : Url.Fault)
  /-- A reason in words of the caller's. -/
  | stated (text : String)
  deriving DecidableEq, Repr

def Reason.message : Reason → String
  | .blankHost entry => "empty host entry " ++ quoted entry
  | .notPositive => "must be positive"
  | .unknownFormat name =>
    "unsupported stream load format " ++ backquoted name ++ " (expected csv or json)"
  | .delimiter fault => fault.message
  | .numeral text fault => backquoted text ++ ": " ++ fault.message
  | .headerName key => "header " ++ backquoted key ++ ": invalid HTTP header name"
  | .headerValue key => "value of " ++ backquoted key ++ ": failed to parse header value"
  | .address shown fault => backquoted shown ++ ": " ++ fault.message
  | .stated text => text

/-- **What is wrong with settings.** A file that cannot be read, a document that is none, a field
that is missing, or the value of one: the first of these that is met. -/
inductive Fault where
  /-- The file cannot be read. -/
  | unreadable (path : String) (cause : FileFault)
  /-- The document is no document, or a value in it has the wrong type. -/
  | malformed
  | missing (field : Field)
  | invalid (field : Field) (reason : Reason)
  deriving DecidableEq, Repr

/-- The wording of a fault. What is wrong with a document is not said, as the words for that belong
to the reader of documents. -/
def Fault.message : Fault → String
  | .unreadable path cause => "failed to read config file '" ++ path ++ "': " ++ cause.message
  | .malformed => "failed to parse config"
  | .missing field => "stream load config is missing required field '" ++ field.name ++ "'"
  | .invalid field reason =>
    "stream load config has invalid " ++ field.name ++ ": " ++ reason.message

end Ingest.Settings
