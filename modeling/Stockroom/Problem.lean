import Stockroom.Filter
import Stockroom.Json.Writer
import Stockroom.Log

/-!
# Problems

What can go wrong with a request: a body that cannot be read, fields that are not valid, a failure
that the client may see, and an internal one. The client learns nothing of an internal problem; the
log shows its operation and its context.
-/

namespace Stockroom

open Text

/-- A value in the context of an internal problem. -/
inductive Detail where
  | value (j : Json)
  | id (u : Uuid)
  | newProduct (p : NewProduct)
  | patch (p : Patch)
  | filter (f : Filter)
  | order (o : OrderBy)

def Detail.shown : Detail → String
  | .value j => j.shown
  | .id u => u.shown
  | .newProduct p => p.shown
  | .patch p => p.shown
  | .filter f => f.shown
  | .order o => o.shown

/-- The names of faulty fields with a message each. -/
abbrev Faults := List (Points × Points)

inductive Problem where
  | decode (message : Points)
  | fields (faults : Faults)
  | request (status : Nat) (message : Points)
  | internal (operation : Points) (context : List (Points × Detail))

namespace Problem

def decodeMessage : String := "unable to decode payload"

def fieldsMessage : String := "data validation error"

def internalMessage : String := "Internal Server Error"

def undecodable : Problem := .decode decodeMessage

def field (name message : Points) : Problem := .fields [(name, message)]

def shownFields (faults : Faults) : Points :=
  List.intercalate ", " (faults.map fun f => f.1 ++ ": " ++ f.2)

def shownContext (context : List (Points × Detail)) : Points :=
  List.intercalate " " (context.map fun c => c.1 ++ "[" ++ c.2.shown ++ "]")

def text : Problem → Points
  | .decode message => message
  | .fields faults => shownFields faults
  | .request _ message => message
  | .internal operation [] => operation
  | .internal operation context => operation ++ ": " ++ shownContext context

/-! ## The answer to the client -/

/-- The body of an error. Fields stand in it only if there are some. -/
def body (error : Points) (faults : Faults) : Json :=
  let named := faults.map fun f => (f.1, Json.string f.2)
  .object (("error", .string error) ::
    if faults.isEmpty then [] else [("fields", .object named)])

/-- The status of the answer. -/
def status : Problem → Nat
  | .decode _ => 400
  | .fields _ => 400
  | .request status _ => status
  | .internal _ _ => 500

/-- What the client is told. Of an internal problem that is always the same. -/
def answer : Problem → Json
  | .decode message => body message []
  | .fields faults => body fieldsMessage faults
  | .request _ message => body message []
  | .internal _ _ => body internalMessage []

/-! ## The line in the log -/

def logText : Problem → Points
  | .decode message => message
  | .fields faults => "validation failed: " ++ shownFields faults
  | .request status message => toString status ++ " " ++ message
  | .internal operation context => text (.internal operation context)

/-- An internal problem is the fault of the service, any other that of the client. -/
def level : Problem → Level
  | .internal _ _ => .error
  | _ => .warning

/-- The line for a request, which `subject` names. -/
def logLine (subject : Points) (p : Problem) : LogLine :=
  ⟨p.level, .problems, subject ++ ": " ++ p.logText⟩

/-! ## Validation records -/

/-- One step of the way to a faulty value. -/
inductive Part where
  | name (p : Points)
  | index (n : Int)
  deriving DecidableEq

def Part.text : Part → Points
  | .name p => p
  | .index n => toString n

/-- One entry of a failed validation. What it lacks is filled in. -/
structure Record where
  kind : Option Points
  location : List Part
  message : Option Points
  deriving DecidableEq

/-- The body as a whole could not be read. -/
def Record.isDecode (r : Record) : Bool :=
  r.kind == some (points "json_invalid") || r.location == [.name "body"]

/-- The location behind its first part, with dots, or else the first part. -/
def Record.name (r : Record) : Points :=
  let inner := List.intercalate "." ((r.location.drop 1).map Part.text)
  if inner.isEmpty then ((r.location.head?).getD (.name "body")).text else inner

/-- The message of a record, or one that says little. -/
def Record.messageText (r : Record) : Points := r.message.getD "invalid value"

/-- The first message of a name stands. -/
def addFault (faults : Faults) (name message : Points) : Faults :=
  if faults.any (·.1 == name) then faults else faults ++ [(name, message)]

/-- Splits a failed validation into a body that cannot be read and fields that are not valid. -/
def classify (records : List Record) : Problem :=
  if records.any Record.isDecode then undecodable
  else .fields (records.foldl (fun faults r => addFault faults r.name r.messageText) [])

end Problem

end Stockroom
