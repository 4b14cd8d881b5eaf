import Egress.Json.Reader
import Egress.Payload.Hydrate

/-!
# Loading a payload file

A payload file is loaded if it can be read, is UTF-8 and holds one JSON value. Only these three can
go wrong; what the value says is hydrated as it is.
-/

namespace Egress

/-- What a path leads to. -/
inductive Place where
  | file (bytes : List UInt8)
  | directory
  /-- Nothing, in a directory that is there. -/
  | vacant
  /-- Nothing, and there could be nothing. -/
  | nowhere
  deriving Repr, DecidableEq

inductive ReadError where
  | missing
  | isDirectory
  | notUtf8
  deriving Repr, DecidableEq

def ReadError.message : ReadError → String
  | missing => "No such file or directory (os error 2)"
  | isDirectory => "Is a directory (os error 21)"
  | notUtf8 => "stream did not contain valid UTF-8"

def Place.text : Place → Except ReadError String
  | file bytes => (Text.Utf8.decode bytes).mapError fun _ => .notUtf8
  | directory => .error .isDirectory
  | vacant => .error .missing
  | nowhere => .error .missing

def Place.exists : Place → Bool
  | file _ => true
  | directory => true
  | _ => false

inductive LoadError where
  | io (error : ReadError)
  | json (fault : Json.Fault)
  deriving Repr, DecidableEq

def LoadError.message : LoadError → String
  | io e => "IO error: " ++ e.message
  | json f => "Payload parse error: " ++ f.message

namespace Payload

def ofText (text : String) : Except LoadError Json :=
  (Json.parse text).mapError .json

def read (place : Place) : Except LoadError Json :=
  match place.text with
  | .error e => .error (.io e)
  | .ok text => ofText text

/-- The text of a payload file: the pretty form and a line end. -/
def fileText (payload : Json) : String :=
  payload.pretty ++ "\n"

def fileBytes (payload : Json) : List UInt8 :=
  Text.Utf8.encode (fileText payload)

def load (place : Place) : Except LoadError (Traced Config) :=
  (read place).map hydrate

end Payload

end Egress
