-- Requests and answers as they go over a connection. The server is asked to close the
-- connection behind its answer, so an answer is all that arrives.
import WarehouseJobs.Http.Exchange
import WarehouseJobs.Json.Writer
import WarehouseJobs.Text.Split
import WarehouseJobs.Text.Whole

namespace WarehouseJobs.HttpMessage

/-! ## Requests -/

def hostShown (a : Address) : String :=
  a.host.getD "" ++
    match a.port with
    | some port => s!":{port}"
    | none => ""

/-- The lines in front of the body, and the body. -/
def headLines (r : HttpRequest) : List String :=
  [r.method.name ++ " " ++ r.address.target ++ " HTTP/1.1",
    "host: " ++ hostShown r.address,
    "accept: */*",
    "connection: close"] ++
  (r.authorization.toList.map fun value => "authorization: " ++ value) ++
  match r.body with
  | some body =>
    ["content-type: application/json", s!"content-length: {body.write.utf8ByteSize}"]
  | none => []

def requestText (r : HttpRequest) : String :=
  String.join ((headLines r).map fun line => line ++ "\r\n") ++ "\r\n" ++
    match r.body with
    | some body => body.write
    | none => ""

/-! ## Answers -/

/-- The parts before and behind the first empty line. -/
def splitHead? : List UInt8 → Option (List UInt8 × List UInt8)
  | 13 :: 10 :: 13 :: 10 :: rest => some ([], rest)
  | b :: rest => (splitHead? rest).map fun (head, body) => (b :: head, body)
  | [] => none

/-- Bytes of a head as characters, one for one. -/
def plainText (bytes : List UInt8) : List Char := bytes.map fun b => Char.ofNat b.toNat

/-- The lines of a head, without their ends. -/
def headerLines (head : List UInt8) : List (List Char) :=
  (Text.splitAll '\n' (plainText head)).map fun line => Text.trim line

/-- The status in the first line of an answer. -/
def status? (line : List Char) : Option UInt16 :=
  match Text.splitAll ' ' line with
  | _ :: code :: _ => (Text.digits? code).map UInt16.ofNat
  | _ => none

/-- The value of a header, whose name may be written in any case. -/
def header? (name : String) (lines : List (List Char)) : Option (List Char) :=
  lines.findSome? fun line =>
    match Text.splitFirst ':' line with
    | some (given, value) =>
      if String.ofList (given.map Char.toLower) = name then some (Text.trim value) else none
    | none => none

/-- A number in hexadecimal digits at the start of a text. -/
def hexAt (value : Nat) : List UInt8 → Nat
  | b :: rest =>
    let c := Char.ofNat b.toNat
    if c.isDigit then hexAt (value * 16 + (c.toNat - '0'.toNat)) rest
    else if 'a' ≤ c.toLower ∧ c.toLower ≤ 'f' then
      hexAt (value * 16 + (c.toLower.toNat - 'a'.toNat + 10)) rest
    else value
  | [] => value

/-- What stands behind the first line end. -/
def afterLine? : List UInt8 → Option (List UInt8)
  | 13 :: 10 :: rest => some rest
  | _ :: rest => afterLine? rest
  | [] => none

/-- The body of an answer that is sent in chunks, of which there are at most `most`. Each one
has its length in front. -/
def fromChunks? : (most : Nat) → List UInt8 → Option (List UInt8)
  | 0, _ => none
  | most + 1, bytes => do
    let rest ← afterLine? bytes
    let size := hexAt 0 bytes
    if size = 0 then some []
    else if rest.length < size then none
    else return rest.take size ++ (← fromChunks? most (← afterLine? (rest.drop size)))

/-- The body of an answer, if all of it arrived. -/
def body? (lines : List (List Char)) (bytes : List UInt8) : Option (List UInt8) :=
  if (header? "transfer-encoding" lines).any fun value => String.ofList value = "chunked" then
    fromChunks? bytes.length bytes
  else
    match (header? "content-length" lines).bind Text.digits? with
    | none => some bytes
    | some length => if bytes.length < length then none else some (bytes.take length)

/-- The answer that arrived, if it is one. -/
def answer? (bytes : List UInt8) : Option HttpAnswer := do
  let (head, rest) ← splitHead? bytes
  match headerLines head with
  | [] => none
  | first :: lines =>
    let status ← status? first
    return ⟨status, (body? lines rest).bind fun body => String.fromUTF8? body.toByteArray⟩

end WarehouseJobs.HttpMessage
