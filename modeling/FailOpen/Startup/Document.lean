import FailOpen.Decimal.Show
import FailOpen.Json.Number
import FailOpen.Startup.Options

/-!
# Options as a JSON document

Startup options read from JSON text, as an object with the six settings in any order or as an array
with the six in their fixed order.  Reading goes from left to right and the first fault wins; a
value of the wrong kind is a fault where it begins, or, if it is a scalar, once it has been read.
Members with other names are skipped.
-/

namespace FailOpen
namespace Startup

open FailOpen.Json (Number ScanFault)
open FailOpen.Text

/-- A value that stands where another was expected. -/
inductive Found where
  | null
  | flag (b : Bool)
  | number (n : Number)
  | text (s : String)
  | array
  | object

def Found.shown : Found → String
  | .null => "null"
  | .flag b => "boolean `" ++ Shape.flag b ++ "`"
  | .number (.natural n) => "integer `" ++ n.repr ++ "`"
  | .number (.negative n) => "integer `-" ++ n.repr ++ "`"
  | .number (.double x) => "floating point `" ++ Decimal.text x ++ "`"
  | .text s => "string " ++ quote s
  | .array => "sequence"
  | .object => "map"

/-- What can be expected. -/
inductive Expected where
  | options
  | text
  | port
  deriving DecidableEq, Repr

def Expected.shown : Expected → String
  | .options => "struct StartupOptions"
  | .text => "a string"
  | .port => "u16"

/-- The six settings of a document. -/
inductive Setting where
  | url
  | apiKey
  | backendPort
  | collectorPort
  | logLevel
  | encryptionKey
  deriving DecidableEq, Repr

def Setting.name : Setting → String
  | .url => "url"
  | .apiKey => "api_key"
  | .backendPort => "backend_port"
  | .collectorPort => "collector_port"
  | .logLevel => "log_level"
  | .encryptionKey => "encryption_key"

/-- All settings, in their order in an array. -/
def Setting.all : List Setting :=
  [.url, .apiKey, .backendPort, .collectorPort, .logLevel, .encryptionKey]

/-- The setting of a name. -/
def Setting.ofName? (name : String) : Option Setting :=
  Setting.all.find? (·.name = name)

/-- A JSON document that does not describe options. -/
inductive DataFault where
  | wrongType (found : Found) (expected : Expected)
  | wrongValue (found : Found) (expected : Expected)
  | wrongLength (length : Nat)
  | duplicate (setting : Setting)
  | missing (setting : Setting)

def DataFault.message : DataFault → String
  | .wrongType found expected =>
    "invalid type: " ++ found.shown ++ ", expected " ++ expected.shown
  | .wrongValue found expected =>
    "invalid value: " ++ found.shown ++ ", expected " ++ expected.shown
  | .wrongLength length =>
    "invalid length " ++ length.repr ++ ", expected " ++ Expected.options.shown
      ++ " with 6 elements"
  | .duplicate setting => "duplicate field `" ++ setting.name ++ "`"
  | .missing setting => "missing field `" ++ setting.name ++ "`"

/-- Why a text does not yield options. -/
inductive DocumentFault where
  | scan (fault : ScanFault)
  | data (fault : DataFault)

/-- The result of a scanner as a result of reading. -/
def scanned {α : Type} (result : Except ScanFault α) : Except DocumentFault α :=
  result.mapError .scan

/-- The numeral at the front of a text, with its value. -/
def readNumber (cs : List Char) : Except DocumentFault (Number × List Char) := do
  let (numeral, rest) ← scanned (Json.numeral .endOfText cs)
  let number ← scanned numeral.value
  return (number, rest)

/-- The value at the front of a text, as far as it takes to say what it is. -/
def identify (cs : List Char) : Except DocumentFault Found :=
  match cs with
  | [] => .error (.scan .endOfText)
  | 'n' :: cs => do
    let _ ← scanned (Json.literal ['u', 'l', 'l'] cs)
    return .null
  | 't' :: cs => do
    let _ ← scanned (Json.literal ['r', 'u', 'e'] cs)
    return .flag true
  | 'f' :: cs => do
    let _ ← scanned (Json.literal ['a', 'l', 's', 'e'] cs)
    return .flag false
  | '"' :: cs => do
    let (text, _) ← scanned (Json.scanString cs)
    return .text (String.ofList text)
  | '[' :: _ => .ok .array
  | '\x7b' :: _ => .ok .object
  | c :: _ =>
    if Json.beginsNumber c then do
      let (number, _) ← readNumber cs
      return .number number
    else .error (.scan .malformed)

/-- The fault of a value of the wrong type. -/
def wrongType {α : Type} (expected : Expected) (cs : List Char) : Except DocumentFault α := do
  let found ← identify cs
  throw (.data (.wrongType found expected))

/-- A string value. -/
def readText (cs : List Char) : Except DocumentFault (String × List Char) :=
  match Json.skipBlanks cs with
  | '"' :: cs => do
    let (text, rest) ← scanned (Json.scanString cs)
    return (String.ofList text, rest)
  | cs => wrongType .text cs

/-- A port, from a value that has been read as a number. -/
def portOfNumber : Number → Except DataFault UInt16
  | .natural n =>
    if n < 65536 then .ok (UInt16.ofNat n)
    else .error (.wrongValue (.number (.natural n)) .port)
  | .negative n => .error (.wrongValue (.number (.negative n)) .port)
  | .double x => .error (.wrongType (.number (.double x)) .port)

/-- A port value. -/
def readPort (cs : List Char) : Except DocumentFault (UInt16 × List Char) :=
  match Json.skipBlanks cs with
  | [] => .error (.scan .endOfText)
  | c :: cs =>
    if Json.beginsNumber c then do
      let (number, rest) ← readNumber (c :: cs)
      let port ← (portOfNumber number).mapError .data
      return (port, rest)
    else wrongType .port (c :: cs)

/-- A port value, or null. -/
def readOptionalPort (cs : List Char) : Except DocumentFault (Option UInt16 × List Char) :=
  match Json.skipBlanks cs with
  | 'n' :: cs => do
    let rest ← scanned (Json.literal ['u', 'l', 'l'] cs)
    return (none, rest)
  | cs => do
    let (port, rest) ← readPort cs
    return (some port, rest)

/-- The settings that have been read so far. -/
structure Partial where
  url : Option String := none
  apiKey : Option String := none
  backendPort : Option (Option UInt16) := none
  collectorPort : Option UInt16 := none
  logLevel : Option String := none
  encryptionKey : Option String := none
  deriving DecidableEq, Repr

namespace Partial

/-- Whether a setting has been read. -/
def has (found : Partial) : Setting → Bool
  | .url => found.url.isSome
  | .apiKey => found.apiKey.isSome
  | .backendPort => found.backendPort.isSome
  | .collectorPort => found.collectorPort.isSome
  | .logLevel => found.logLevel.isSome
  | .encryptionKey => found.encryptionKey.isSome

/-- Reads the value of a setting. -/
def readSetting (found : Partial) (setting : Setting) (cs : List Char) :
    Except DocumentFault (Partial × List Char) :=
  match setting with
  | .url => do
    let (value, rest) ← readText cs
    return ({ found with url := some value }, rest)
  | .apiKey => do
    let (value, rest) ← readText cs
    return ({ found with apiKey := some value }, rest)
  | .backendPort => do
    let (value, rest) ← readOptionalPort cs
    return ({ found with backendPort := some value }, rest)
  | .collectorPort => do
    let (value, rest) ← readPort cs
    return ({ found with collectorPort := some value }, rest)
  | .logLevel => do
    let (value, rest) ← readText cs
    return ({ found with logLevel := some value }, rest)
  | .encryptionKey => do
    let (value, rest) ← readText cs
    return ({ found with encryptionKey := some value }, rest)

/-- The options that the settings make, with defaults for those that may be absent. -/
def options (found : Partial) : Except Setting Options :=
  match found.url, found.apiKey with
  | none, _ => .error .url
  | some _, none => .error .apiKey
  | some url, some apiKey =>
    let base : Options := { url, apiKey }
    .ok {
      base with
      backendPort := found.backendPort.getD base.backendPort
      collectorPort := found.collectorPort.getD base.collectorPort
      logLevel := found.logLevel.getD base.logLevel
      encryptionKey := found.encryptionKey.getD base.encryptionKey }

end Partial

/-! ## Objects -/

/-- Reads one member, from after the opening quote of its name. -/
def readMember (found : Partial) (cs : List Char) :
    Except DocumentFault (Partial × List Char) := do
  let (name, cs) ← scanned (Json.scanString cs)
  match Setting.ofName? (String.ofList name) with
  | some setting =>
    if found.has setting then throw (.data (.duplicate setting))
    let cs ← scanned (Json.literal [':'] (Json.skipBlanks cs))
    found.readSetting setting cs
  | none =>
    let cs ← scanned (Json.literal [':'] (Json.skipBlanks cs))
    let cs ← scanned (Json.skipValue cs)
    return (found, cs)

/-- The members that follow another one, up to the closing brace, which is left in place.  Each
step takes at least one character. -/
def readMembers (found : Partial) :
    (steps : Nat) → List Char → Except DocumentFault (Partial × List Char)
  | 0, _ => .error (.scan .endOfText)
  | steps + 1, cs =>
    match Json.skipBlanks cs with
    | '\x7d' :: cs => .ok (found, '\x7d' :: cs)
    | ',' :: cs =>
      match Json.skipBlanks cs with
      | '"' :: cs => do
        let (found, cs) ← readMember found cs
        readMembers found steps cs
      | cs => .error (.scan (Json.unexpectedAt cs))
    | cs => .error (.scan (Json.unexpectedAt cs))

/-- The members of an object, from after its opening brace. -/
def readFirstMember (cs : List Char) : Except DocumentFault (Partial × List Char) :=
  match Json.skipBlanks cs with
  | '\x7d' :: cs => .ok ({}, '\x7d' :: cs)
  | '"' :: cs => do
    let (found, cs) ← readMember {} cs
    readMembers found (cs.length + 1) cs
  | cs => .error (.scan (Json.unexpectedAt cs))

/-- An object of settings, from after its opening brace. -/
def readObject (cs : List Char) : Except DocumentFault (Options × List Char) := do
  let (found, cs) ← readFirstMember cs
  let options ← found.options.mapError fun setting => .data (.missing setting)
  let cs ← scanned (Json.literal ['\x7d'] (Json.skipBlanks cs))
  return (options, cs)

/-! ## Arrays -/

/-- Moves to the next element of an array, if there is one.  The closing bracket is left in
place. -/
def nextElement (isFirst : Bool) (cs : List Char) :
    Except DocumentFault (Option (List Char)) :=
  match Json.skipBlanks cs with
  | [] => .error (.scan .endOfText)
  | ']' :: _ => .ok none
  | c :: cs =>
    if isFirst then .ok (some (c :: cs))
    else if c = ',' then
      match Json.skipBlanks cs with
      | [] => .error (.scan .endOfText)
      | ']' :: _ => .error (.scan .malformed)
      | cs => .ok (some cs)
    else .error (.scan .malformed)

/-- Reads elements as the values of the given settings, as long as there are elements. -/
def readElements (found : Partial) (isFirst : Bool) :
    (settings : List Setting) → List Char → Except DocumentFault (Partial × List Char)
  | [], cs => .ok (found, cs)
  | setting :: settings, cs => do
    match ← nextElement isFirst cs with
    | none => return (found, cs)
    | some cs =>
      let (found, cs) ← found.readSetting setting cs
      readElements found false settings cs

/-- The number of elements that have been read when a required one is missing. -/
def Setting.index (setting : Setting) : Nat :=
  Setting.all.idxOf setting

/-- An array of settings, from after its opening bracket. -/
def readArray (cs : List Char) : Except DocumentFault (Options × List Char) := do
  let (found, cs) ← readElements {} true Setting.all cs
  let options ← found.options.mapError fun setting => .data (.wrongLength setting.index)
  let cs ← scanned (Json.literal [']'] (Json.skipBlanks cs))
  return (options, cs)

/-! ## Documents -/

/-- The options at the front of a text. -/
def readOptions (cs : List Char) : Except DocumentFault (Options × List Char) :=
  match Json.skipBlanks cs with
  | '[' :: cs => readArray cs
  | '\x7b' :: cs => readObject cs
  | cs => wrongType .options cs

/-- The options that a text describes.  Nothing but blanks may follow them. -/
def Options.ofJson (text : String) : Except DocumentFault Options := do
  let (options, rest) ← readOptions text.toList
  match Json.skipBlanks rest with
  | [] => return options
  | _ :: _ => throw (.scan .malformed)

end Startup
end FailOpen
