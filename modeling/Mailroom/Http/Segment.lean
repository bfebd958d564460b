import Mailroom.Net.Ip
import Mailroom.Text.Base64

/-!
# Segments of paths

A path is divided at its slashes. A segment is text in which a percent sign and two hexadecimal
digits stand for a byte; a percent sign that is not followed by them stands for itself.
-/

namespace Mailroom.Http

/-- The segments of a path, the empty one in front of its first slash among them. -/
def segments (path : String) : List String :=
  (Text.splitAt '/' path.toList).map String.ofList

/-- The bytes that some characters stand for. -/
def percentDecoded : List Char → List UInt8
  | '%' :: a :: b :: cs =>
    match Net.Ip.hexadecimal? a, Net.Ip.hexadecimal? b with
    | some x, some y => UInt8.ofNat (16 * x + y) :: percentDecoded cs
    | _, _ => Text.Base64.bytesOf ['%'] ++ percentDecoded (a :: b :: cs)
  | c :: cs => Text.Base64.bytesOf [c] ++ percentDecoded cs
  | [] => []

/-- The text that a segment stands for, if its bytes are those of a text. -/
def segmentText? (segment : String) : Option String :=
  String.fromUTF8? ⟨(percentDecoded segment.toList).toArray⟩

end Mailroom.Http
