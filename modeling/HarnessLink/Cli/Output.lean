import HarnessLink.Backend.Response
import HarnessLink.Cli.Arguments
import HarnessLink.Cli.FrameText
import HarnessLink.Cli.Table
import HarnessLink.Packet.Frame

/-!
# Output of commands

How envelopes, answers and frames are printed in each format. Raw output is the
bytes of a frame; all other output is text in whole lines.
-/
namespace HarnessLink.Cli

inductive Printed where
  | text (s : String)
  | raw (bytes : Bytes)
  deriving DecidableEq

namespace Printed

def line (s : String) : Printed := text (s ++ "\n")

/-- Lines one after the other. -/
def lines (texts : List String) : Printed := text (String.join (texts.map fun s => s ++ "\n"))

end Printed

/-- A message with its id, for the eye. -/
def messageTitle (m : Message) : String := s!"{m.name} ({Text.Hex.prefixed m.id})"

/-- An envelope as a structured value. -/
def envelopeJson (e : Envelope) (size : Nat) : Json :=
  .object [("name", .string e.message.name), ("message_id", .byte e.message.id),
    ("address", e.address.json), ("message", e.message.json), ("size", .natural size)]

/-- An envelope and the frame that it was read from. -/
def printEnvelope (e : Envelope) (frame : Bytes) (format : OutputFormat) : Printed :=
  let direction := e.message.direction.name
  let size := toString frame.length
  let body := e.message.json.text
  match format with
  | .json => .line (envelopeJson e frame.length).text
  | .table =>
    .line (Table.render ["DIRECTION", "MESSAGE", "ADDRESS", "SIZE", "BODY"]
      [direction, messageTitle e.message, e.address.text, size, body])
  | .pretty =>
    .line (String.intercalate " " [s!"direction={direction}", s!"message={e.message.name}",
      s!"address={e.address.text}", s!"size={size}", s!"body={body}"])
  | .raw => .raw frame

def statusName (r : BackendResponse) : String := BackendResponse.statusName r.success

/-- The parts of an answer that are there. -/
def prettyParts (r : BackendResponse) : List String :=
  [s!"inst={r.result.instruction}", s!"status={statusName r}"] ++
    (if r.result.failed.isEmpty then [] else ["devices=" ++ String.intercalate "," r.result.failed]) ++
    (r.result.mode?.map fun m => s!"mode={m.toNat}").toList ++
    (r.result.control?.map fun c => s!"ctrl={c.toNat}").toList ++
    (r.result.error?.map fun e => "error=" ++ Text.quoted e).toList

def byteText : Option UInt8 → String
  | some b => toString b.toNat
  | none => ""

/-- An answer without its line break. -/
def responseText (r : BackendResponse) (format : OutputFormat) : String :=
  match format with
  | .json | .raw => r.text
  | .table =>
    Table.render ["INST", "STATUS", "DEVICES", "MODE", "CTRL", "ERROR"]
      [r.result.instruction, statusName r, String.intercalate ", " r.result.failed,
        byteText r.result.mode?, byteText r.result.control?, r.result.error?.getD ""]
  | .pretty => String.intercalate " " (prettyParts r)

/-- The bytes of a frame. -/
def printFrame (frame : Bytes) (format : OutputFormat) : Printed :=
  match format with
  | .raw => .raw frame
  | .json =>
    .line (Json.object [("frame", .string (FrameText.write frame)),
      ("size", .natural frame.length)]).text
  | .table | .pretty => .line (FrameText.write frame)

end HarnessLink.Cli
