import Hotki.Base.Text
import Hotki.Base.Utf8
import Hotki.Keycode.Parse

/-! The output of a process: captured up to a bound, and cut down to a notification's text. -/

namespace Hotki

open Base

/-- How many bytes of each stream are retained, half of the bound on both. -/
def processStreamLimitBytes : Nat := 64 * 1024 / 2

/-- What was retained of a stream. -/
structure CapturedStream where
  bytes : List UInt8
  truncated : Bool
  deriving DecidableEq

/-- Retains what fits of one more read. -/
def CapturedStream.retain (stream : CapturedStream) (chunk : List UInt8) : CapturedStream :=
  let remaining := processStreamLimitBytes - stream.bytes.length
  let retained := min remaining chunk.length
  ⟨stream.bytes ++ chunk.take retained, stream.truncated || decide (retained < chunk.length)⟩

/-- Reads on until a read of no bytes, which is the end of the stream, or a failure. -/
def CapturedStream.readOn (stream : CapturedStream) :
    List (Except String (List UInt8)) → Except String CapturedStream
  | [] => .ok stream
  | .error error :: _ => .error error
  | .ok [] :: _ => .ok stream
  | .ok chunk :: rest => (stream.retain chunk).readOn rest

/-- Captures a stream by reading it to its end. -/
def readBounded (reads : List (Except String (List UInt8))) : Except String CapturedStream :=
  CapturedStream.readOn ⟨[], false⟩ reads

/-- Both streams as one text, with a line break between them. -/
def combineOutput (out err : List Char) : List Char :=
  if err = [] then out
  else if out ≠ [] ∧ out.getLast? ≠ some '\n' then out ++ '\n' :: err
  else out ++ err

/-- Whether a line has something other than white space. -/
def nonblank (line : List Char) : Bool := !(trimmed line).isEmpty

/-- The position of the last member of a list that satisfies a condition. -/
def rposition {α : Type} (condition : α → Bool) (items : List α) : Option Nat :=
  (items.reverse.findIdx? condition).map fun index => items.length - 1 - index

/-- The lines from the first to the last one that is not blank. -/
def nonblankSpan (lines : List (List Char)) : List (List Char) :=
  match lines.findIdx? nonblank, rposition nonblank lines with
  | some start, some final =>
    if start ≤ final then (lines.drop start).take (final + 1 - start) else []
  | _, _ => []

/-- What stands last when output was dropped. -/
def truncationMarker : List Char := "[output truncated]".toList

/-- The text of a notification about a process. -/
def trimProcessOutput (stdout stderr : CapturedStream) : String :=
  let combined := combineOutput (lossyChars stdout.bytes) (lossyChars stderr.bytes)
  let output := ['\n'].intercalate (nonblankSpan (textLines combined))
  if stdout.truncated || stderr.truncated then
    let output := if output = [] then output else output ++ ['\n']
    String.ofList (output ++ truncationMarker)
  else String.ofList output

example : trimProcessOutput ⟨"\n a\r\n\nb \n".toUTF8.toList, false⟩ ⟨[0x20, 0xFF], true⟩ =
    " a\n\nb \n �\n[output truncated]" := by decide +kernel

end Hotki
