import ArgHints.Json.Reader
import ArgHints.Text.Utf8

/-!
# Paths

The framework that the service is built on finds the endpoint of a request, and this module stands
for it. The pages that the framework adds of its own, such as a description of the service, are left
out: their paths lead nowhere here. A path is read up to its query, and each percent sign with two
hexadecimal digits stands for a byte. The bytes are read as UTF-8; what is no UTF-8 becomes a
replacement character.
-/

namespace ArgHints.Service

def percentDecode : List Char → List UInt8
  | '%' :: a :: b :: rest =>
    match Json.Token.hexValue? [a, b] with
    | some byte => UInt8.ofNat byte :: percentDecode rest
    | none => String.utf8EncodeChar '%' ++ percentDecode (a :: b :: rest)
  | c :: rest => String.utf8EncodeChar c ++ percentDecode rest
  | [] => []

def decodePath (path : String) : List Char :=
  Text.Utf8.decodeLossy (percentDecode (path.toList.takeWhile (· != '?')))

inductive Endpoint where
  | health
  | token
  | hint
  | buffer (id : String)
  deriving DecidableEq, Repr

namespace Endpoint

def bufferRoot : List Char := "/buffers/".toList

/-- The endpoint of a decoded path. The id of a buffer is a single segment. -/
def ofPath? (path : List Char) : Option Endpoint :=
  if path == "/health".toList then some health
  else if path == "/token".toList then some token
  else if path == "/doc".toList then some hint
  else
    let id := path.drop bufferRoot.length
    if bufferRoot.isPrefixOf path && !id.isEmpty && !id.contains '/' then
      some (buffer (String.ofList id))
    else none

def method : Endpoint → String
  | health => "GET"
  | token | hint => "POST"
  | buffer _ => "DELETE"

end Endpoint

end ArgHints.Service
