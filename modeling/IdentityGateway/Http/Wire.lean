import IdentityGateway.Http.Message
import IdentityGateway.Http.Status

/-!
# Messages on a connection

Requests as they stand one after another on a connection, and responses as they are
written to it. A body has the length that its request declares.
-/

namespace IdentityGateway.Http.Wire

/-- The line at the front without its end, and the bytes after it. -/
def line? (bs : List UInt8) : Option (List UInt8 × List UInt8) :=
  let line := bs.takeWhile (· != 0x0A)
  match bs.drop line.length with
  | [] => none
  | _ :: rest =>
    let ended := if line.getLast? = some 0x0D then line.dropLast else line
    some (ended, rest)

/-- Bytes without blanks and tabs at both ends. -/
def trimmed (bs : List UInt8) : List UInt8 :=
  let isMargin (b : UInt8) : Bool := b == 0x20 || b == 0x09
  ((bs.dropWhile isMargin).reverse.dropWhile isMargin).reverse

/-- The text of bytes that are all ASCII. -/
def ascii (bs : List UInt8) : String :=
  String.ofList (bs.map fun b => Char.ofNat b.toNat)

/-- The header field of a line. -/
def field (line : List UInt8) : String × FieldValue :=
  let name := line.takeWhile (· != 0x3A)
  (ascii name, trimmed (line.drop (name.length + 1)))

/-- The header fields up to an empty line, and the bytes after it. -/
def fields? (bs : List UInt8) : Nat → Option (List (String × FieldValue) × List UInt8)
  | 0 => none
  | fuel + 1 => do
    let (line, rest) ← line? bs
    if line.isEmpty then some ([], rest)
    else
      let (more, rest) ← fields? rest fuel
      return (field line :: more, rest)

/-- The method and the target of a request line. -/
def requestLine (line : List UInt8) : String × List UInt8 :=
  let method := line.takeWhile (· != 0x20)
  let target := (line.drop (method.length + 1)).takeWhile (· != 0x20)
  (ascii method, target)

/-- The header fields that a request may have at most. -/
def fieldLimit : Nat := 100

/-- The request at the front, and the bytes after it. -/
def request? (bs : List UInt8) : Option (Request × List UInt8) := do
  let (line, rest) ← line? bs
  let (pairs, rest) ← fields? rest fieldLimit
  let headers ← (Headers.ofPairs pairs).toOption
  let length := do
    let value ← headers.first? "content-length"
    Text.natBelow? (Nat.pow 2 64) (ascii value)
  let body := rest.take (length.getD 0)
  let (method, target) := requestLine line
  let request ← Request.ofParts? method target headers body
  return (request, rest.drop (length.getD 0))

/-- The requests on a connection, up to the first that is not well formed. -/
def requests : Nat → List UInt8 → List Request
  | 0, _ => []
  | fuel + 1, bs => match request? bs with
    | none => []
    | some (request, rest) => request :: requests fuel rest

/-- What lines are ended with when a response is written. Those that are read may leave out the
first byte. -/
def lineEnd : List UInt8 := [0x0D, 0x0A]

/-- A header field as it is written. -/
def fieldBytes (h : String × FieldValue) : List UInt8 :=
  asciiBytes h.1 ++ [0x3A, 0x20] ++ h.2 ++ lineEnd

/-- A response as it goes out on the connection, with the length of its body declared behind its own
headers. -/
def responseBytes (response : Response) : List UInt8 :=
  let body := response.body.toUTF8.toList
  let length := ("content-length", asciiBytes (toString body.length))
  asciiBytes ("HTTP/1.1 " ++ statusText response.status) ++ lineEnd ++
    (response.headers ++ [length]).flatMap fieldBytes ++ lineEnd ++ body

end IdentityGateway.Http.Wire
