/-
The configuration of a scoring run, and the files it is read from. The ending of a file's name says which notation it is
written in, before anything is read.
-/
import AccessibleWalk.Document.JsonReader
import AccessibleWalk.Document.TomlReader
import AccessibleWalk.Routing.Config

namespace AccessibleWalk

/-- how edges are scored -/
structure ScoringConfig where
  routing : RoutingConfig := {}
  /-- leave out number tags that cannot be read -/
  ignoreTagErrors : Bool := false
  /-- walkers push a bicycle -/
  walkingBike : Bool := false

namespace ScoringConfig

def fields : List (Decode.Field ScoringConfig) :=
  [
    .of "routing" RoutingConfig.decode fun v c => { c with routing := v },
    .of "ignore_osm_parsing_errors" Decode.flag fun v c => { c with ignoreTagErrors := v },
    .of "walking_bike" Decode.flag fun v c => { c with walkingBike := v }]

def decode : Decoder ScoringConfig := Decode.record fields true {}

/-- equality of what is configured, which tells more apart than the preferences that come of it -/
def equals (c d : ScoringConfig) : Bool :=
  c.routing.equals d.routing && c.ignoreTagErrors == d.ignoreTagErrors && c.walkingBike == d.walkingBike

def toDocument (c : ScoringConfig) : Document :=
  .record [
    ("routing", c.routing.toDocument),
    ("ignore_osm_parsing_errors", .flag c.ignoreTagErrors),
    ("walking_bike", .flag c.walkingBike)]

end ScoringConfig

/-! ## Files -/

/-- why a file gives no configuration -/
inductive ConfigError where
  | unsupported (file : String)
  | unreadable (file reason : String)
  | undecodable (file : String) (cause : DecodeError)
  deriving DecidableEq

namespace ConfigError

/-- the error up to the details of decoding -/
def summary : ConfigError → String
  | .unsupported file => "unsupported file type: " ++ file
  | .unreadable file reason => "failure reading " ++ file ++ ": " ++ reason
  | .undecodable file _ => "failure decoding " ++ file

/-- the details of decoding, where there is a text for them -/
def cause? : ConfigError → Option String
  | .undecodable _ cause => cause.message?
  | _ => none

def message (e : ConfigError) : String :=
  match e with
  | .undecodable _ cause => e.summary ++ ": " ++ cause.message?.getD "not a configuration"
  | _ => e.summary

end ConfigError

namespace ScoringConfig

/-- a configuration in JSON; mistakes of form and of content count in the order of the text -/
def ofJson (text : String) : Except DecodeError ScoringConfig := do
  let reading := Json.read text
  let config ← decode .json reading.document
  if reading.complete then .ok config else .error .misfit

/-- a configuration in TOML, which is well formed as a whole before anything is taken from it -/
def ofToml (text : String) : Except DecodeError ScoringConfig :=
  match Toml.document? text with
  | some document => decode .toml document
  | none => .error .misfit

/-- the notation that a file name stands for -/
def readerOf? (file : String) : Option (String → Except DecodeError ScoringConfig) :=
  if file.endsWith ".toml" then some ofToml
  else if file.endsWith ".json" then some ofJson
  else none

/-- the configuration in a file, given its content or why it cannot be read -/
def ofFile (file : String) (content : Except String ByteArray) : Except ConfigError ScoringConfig :=
  match readerOf? file with
  | none => .error (.unsupported file)
  | some reader =>
    match content with
    | .error reason => .error (.unreadable file reason)
    | .ok bytes =>
      match String.fromUTF8? bytes with
      | none => .error (.unreadable file "stream did not contain valid UTF-8")
      | some text => (reader text).mapError (.undecodable file)

end ScoringConfig

end AccessibleWalk
