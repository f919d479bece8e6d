import SleepySession.Lib.Checks
import SleepySession.Lib.JsonText
import SleepySession.Lib.Table

/-!
# The stream of pw-dump events

How the session cuts the output of `pw-dump --monitor` into JSON arrays and which
of their events ask for another reading of the audio state.  The decoding of a
frame, `serde_json::from_slice`, is a parameter.
-/

namespace SleepySession
namespace AudioMonitor

open JsonText (quote backslash openArray opens closes)

def maxFrame : Nat :=
  1024 * 1024

def maxObjects : Nat :=
  4096

/-- The bound on the nesting inside a frame. -/
def maxDepth : Nat :=
  64

/-- An `InvalidData` error with its message. -/
structure InvalidData where
  message : String
deriving DecidableEq

def invalid {α : Type} (message : String) : Except InvalidData α :=
  .error ⟨message⟩

section Values

/-- A decoded value; `unsigned` is the number as a `u64`, if it is one. -/
inductive Json where
  | null
  | bool (b : Bool)
  | number (unsigned : Option UInt64)
  | string (text : String)
  | array (values : List Json)
  | object (fields : List (String × Json))

namespace Json

def get : Json → String → Option Json
  | .object fields, key => (fields.find? fun field => field.1 = key).map Prod.snd
  | _, _ => none

def asArray : Json → Option (List Json)
  | .array values => some values
  | _ => none

def asStr : Json → Option String
  | .string text => some text
  | _ => none

def asU64 : Json → Option UInt64
  | .number unsigned => unsigned
  | _ => none

def isNull : Json → Bool
  | .null => true
  | _ => false

end Json

end Values

section Events

/-- `true` is metadata, `false` a node or a device. -/
abbrev Objects := Table UInt32 Bool

/-- `u32::try_from`. -/
def u32 (n : UInt64) : Option UInt32 :=
  if n.toNat < 2 ^ 32 then some n.toUInt32 else none

def eventId (event : Json) : Option UInt32 :=
  (event.get "id").bind fun id => id.asU64.bind u32

/-- A removed object is announced without its `info`. -/
def isRemoval (event : Json) : Bool :=
  (event.get "info").any Json.isNull

def typeKind (type : String) : Option Bool :=
  if type = "PipeWire:Interface:Node" ∨ type = "PipeWire:Interface:Device" then some false
  else if type = "PipeWire:Interface:Metadata" then some true
  else none

def defaultKeys : List String :=
  ["default.audio.sink", "default.audio.source", "default.configured.audio.sink",
    "default.configured.audio.source"]

/-- An entry with a null key clears all of them. -/
def setsDefault (entry : Json) : Bool :=
  (entry.get "key").any Json.isNull ||
    ((entry.get "key").bind Json.asStr).any fun key => key ∈ defaultKeys

def announcesDefault (event : Json) : Bool :=
  ((event.get "metadata").bind Json.asArray).any fun entries => entries.any setsDefault

/-- The end of the turn, for an object that is retained. -/
def retainObject (objects : Objects) (id : UInt32) (metadata : Bool) (event : Json) :
    Except InvalidData (Objects × Bool) :=
  let objects := objects.insert id metadata
  if maxObjects < objects.entries.length then
    invalid "pw-dump object count exceeds bound"
  else if metadata then .ok (objects, announcesDefault event)
  else .ok (objects, true)

/-- The turn of the loop in `batch`. -/
def applyEvent (objects : Objects) (event : Json) : Except InvalidData (Objects × Bool) :=
  match eventId event with
  | none => invalid "pw-dump missing object ID"
  | some id =>
      if isRemoval event then
        .ok (objects.remove id, objects.contains id)
      else
        let (objects, kind) :=
          match (event.get "type").bind Json.asStr with
          | some type =>
              match typeKind type with
              | some metadata => (objects, some metadata)
              | none => (objects.remove id, none)
          | none => (objects, objects.get? id)
        match kind with
        | none => .ok (objects, false)
        | some metadata => retainObject objects id metadata event

def batch (objects : Objects) (value : Json) : Except InvalidData (Objects × Bool) :=
  match value.asArray with
  | none => invalid "pw-dump expected array"
  | some events => Checks.reportM applyEvent objects events

end Events

section Framing

variable (parse : List UInt8 → Option Json)

/-- `yielded` records the frames that were handed to `batch`. -/
structure Monitor where
  frame : List UInt8
  depth : Nat
  quoted : Bool
  escaped : Bool
  objects : Objects
  yielded : List (List UInt8)

def Monitor.default : Monitor :=
  ⟨[], 0, false, false, .empty, []⟩

/-- `u8::is_ascii_whitespace`. -/
def isAsciiWhitespace (byte : UInt8) : Bool :=
  byte ∈ JsonText.ascii " \t\n\x0c\x0d"

/-- The frame is complete. -/
def closeFrame (m : Monitor) : Except InvalidData (Monitor × Bool) :=
  match parse m.frame with
  | none => invalid "pw-dump invalid JSON"
  | some value => do
      let (objects, changed) ← batch m.objects value
      pure ({ m with frame := [], objects, yielded := m.yielded ++ [m.frame] }, changed)

/-- What a byte does after it has been pushed to the frame. -/
def scanByte (m : Monitor) (byte : UInt8) : Except InvalidData (Monitor × Bool) :=
  if m.quoted then
    if m.escaped then .ok ({ m with escaped := false }, false)
    else if byte = backslash then .ok ({ m with escaped := true }, false)
    else if byte = quote then .ok ({ m with quoted := false }, false)
    else .ok (m, false)
  else if byte = quote then .ok ({ m with quoted := true }, false)
  else if opens byte then
    if maxDepth < m.depth + 1 then invalid "pw-dump nesting exceeds bound"
    else .ok ({ m with depth := m.depth + 1 }, false)
  else if closes byte then
    if m.depth = 0 then invalid "pw-dump unmatched delimiter"
    else if m.depth - 1 = 0 then closeFrame parse { m with depth := m.depth - 1 }
    else .ok ({ m with depth := m.depth - 1 }, false)
  else .ok (m, false)

/-- The turn of the loop in `feed`. -/
def feedByte (m : Monitor) (byte : UInt8) : Except InvalidData (Monitor × Bool) :=
  if m.frame.isEmpty && isAsciiWhitespace byte then .ok (m, false)
  else if m.frame.isEmpty && byte != openArray then
    invalid "pw-dump expected a JSON array"
  else if m.frame.length = maxFrame then invalid "pw-dump frame exceeds 1 MiB"
  else scanByte parse { m with frame := m.frame ++ [byte] } byte

def feed (m : Monitor) (bytes : List UInt8) : Except InvalidData (Monitor × Bool) :=
  Checks.reportM (feedByte parse) m bytes

/-- The reads of a stream, with what `feed` reports of each. -/
def feedChunks (m : Monitor) : List (List UInt8) → Except InvalidData (Monitor × List Bool)
  | [] => .ok (m, [])
  | bytes :: chunks => do
      let (m, changed) ← feed parse m bytes
      let (m, reports) ← feedChunks m chunks
      pure (m, changed :: reports)

end Framing

end AudioMonitor
end SleepySession
