-- Addresses, read as web browsers read them: lenient where the meaning is clear, and strict
-- about hosts and ports. Only the parts that matter here are kept.
import WarehouseJobs.Text.Whole
import WarehouseJobs.Url.Domain
import WarehouseJobs.Url.Ipv6

namespace WarehouseJobs

/-- Why a text is no address. -/
inductive AddressFault where
  | noScheme
  | emptyHost
  | badDomain
  | badPort
  | badIpv4
  | badIpv6
  | badHostCharacter
deriving DecidableEq, Repr

def AddressFault.message : AddressFault → String
  | .noScheme => "relative URL without a base"
  | .emptyHost => "empty host"
  | .badDomain => "invalid international domain name"
  | .badPort => "invalid port number"
  | .badIpv4 => "invalid IPv4 address"
  | .badIpv6 => "invalid IPv6 address"
  | .badHostCharacter => "invalid domain character"

/-- An address. The host is as it is written in the address; an address without authority,
or with an empty one, has none. -/
structure Address where
  scheme : String
  host : Option String
  /-- The port if it is written; only of addresses with a scheme of the web. -/
  port : Option Nat
  /-- The path with its leading slash, percent-encoded; only of addresses with a scheme of
  the web. -/
  path : List Char
  /-- The query without its question mark, percent-encoded. -/
  query : Option (List Char)
deriving Repr

namespace Url

/-! ## Kinds of scheme -/

inductive SchemeKind where
  /-- Always with a host; slashes may lean either way. -/
  | web
  /-- Files, with a host or without. -/
  | file
  /-- Any other scheme. -/
  | other
deriving DecidableEq, Repr

def SchemeKind.of (scheme : List Char) : SchemeKind :=
  if ["http", "https", "ws", "wss", "ftp"].contains (String.ofList scheme) then .web
  else if String.ofList scheme = "file" then .file
  else .other

/-- A slash, as schemes of this kind understand it. -/
def isSlash (kind : SchemeKind) (c : Char) : Bool := c = '/' || (c = '\\' && kind ≠ .other)

/-- Where the authority of an address ends. -/
def endsAuthority (kind : SchemeKind) (c : Char) : Bool :=
  isSlash kind c || c = '?' || c = '#'

/-! ## Scheme -/

/-- What counts of the text: without white space and control characters around it, and
without tabs and line breaks anywhere. -/
def cleaned (s : String) : List Char :=
  let outer (c : Char) : Bool := c.toNat ≤ 0x20
  (Text.dropEndWhile outer (s.toList.dropWhile outer)).filter fun c =>
    c ≠ '\t' ∧ c ≠ '\n' ∧ c ≠ '\r'

def isSchemeChar (c : Char) : Bool := isAlphanumeric c || c = '+' || c = '-' || c = '.'

/-- The scheme in lower case, and what follows its colon. -/
def scheme? (cs : List Char) : Option (List Char × List Char) :=
  match cs.head?, Text.splitFirst ':' cs with
  | some c, some (scheme, rest) =>
    if c.isAlpha && scheme.all isSchemeChar then some (scheme.map Char.toLower, rest) else none
  | _, _ => none

/-! ## Hosts -/

/-- The pieces between square brackets. -/
def bracketedHost (cs : List Char) : Except AddressFault (List Char) :=
  match cs.reverse with
  | ']' :: inner =>
    match ipv6? (inner.reverse.drop 1) with
    | some pieces => .ok (ipv6Shown pieces).toList
    | none => .error .badIpv6
  | _ => .error .badIpv6

/-- The host of a scheme nobody knows: kept as it is, apart from what must be encoded. -/
def otherHost (cs : List Char) : Except AddressFault (List Char) :=
  if cs.head? = some '[' then bracketedHost cs
  else if cs.any endsPart then .error .badHostCharacter
  else .ok (encode isPlain cs)

/-- The host of the web or of a file: a domain, or a number. -/
def webHost (cs : List Char) : Except AddressFault (List Char) :=
  if cs.head? = some '[' then bracketedHost cs
  else
    match (decode? cs).bind domain? with
    | none => .error .badDomain
    | some [] => .error .emptyHost
    | some domain =>
      if endsInNumber domain then
        match ipv4? domain with
        | some address => .ok (ipv4Shown address).toList
        | none => .error .badIpv4
      else .ok domain

/-! ## Authority -/

/-- The host and what follows it: a colon ends it, but not between square brackets. -/
def splitHost : (bracketed : Bool) → List Char → List Char × List Char
  | _, [] => ([], [])
  | bracketed, c :: cs =>
    if c = ':' ∧ !bracketed then ([], c :: cs)
    else
      let (host, rest) := splitHost (if c = '[' then true else if c = ']' then false else bracketed) cs
      (c :: host, rest)

/-- The port of what follows a host. An empty port is as good as none. -/
def port? (cs : List Char) : Option (Option Nat) :=
  if cs.isEmpty then some none
  else ((Text.digitsOnto 0 cs).filter (· ≤ Text.largest16)).map some

/-- The host and the port of an authority without its user part. -/
def hostAndPort (kind : SchemeKind) (cs : List Char) :
    Except AddressFault (List Char × Option Nat) :=
  let (given, rest) := splitHost false cs
  if given.isEmpty ∧ (kind = .web ∨ !rest.isEmpty) then .error .emptyHost
  else
    match (if kind = .web then webHost given else otherHost given) with
    | .error fault => .error fault
    | .ok host =>
      match port? ((rest.drop 1).takeWhile (· ≠ '\\')) with
      | some port => .ok (host, port)
      | none => .error .badPort

/-- The host and the port of an authority, which may be empty. Everything up to the last at
sign names a user, and a user needs a host. `followed` tells whether anything stands behind
the authority. -/
def authorityHost (kind : SchemeKind) (followed : Bool) (cs : List Char) :
    Except AddressFault (List Char × Option Nat) :=
  match Text.splitLast '@' cs with
  | none => hostAndPort kind cs
  | some (user, rest) =>
    if user.isEmpty ∧ rest.isEmpty ∧ followed then .error .emptyHost
    else
      match hostAndPort kind rest with
      | .error fault => .error fault
      | .ok (host, port) =>
        if host.isEmpty ∧ user ≠ [] ∧ user ≠ [':'] then .error .emptyHost else .ok (host, port)

/-! ## Path and query -/

/-- The parts of a path between its slashes. -/
def segmentsOf (kind : SchemeKind) : List Char → List (List Char)
  | [] => [[]]
  | c :: cs =>
    if isSlash kind c then [] :: segmentsOf kind cs
    else
      match segmentsOf kind cs with
      | [] => [[c]]
      | segment :: segments => (c :: segment) :: segments

/-- A letter with a colon or a bar: the name of a disk drive. -/
def isDriveLetter : List Char → Bool
  | [c, mark] => c.isAlpha && (mark = ':' || mark = '|')
  | _ => false

/-- Whether a segment stands for the directory it is in. -/
def isHere (segment : List Char) : Bool :=
  [".", "%2e"].contains (String.ofList (segment.map Char.toLower))

/-- Whether a segment stands for the directory above. -/
def isAbove (segment : List Char) : Bool :=
  ["..", "%2e%2e", "%2e.", ".%2e"].contains (String.ofList (segment.map Char.toLower))

/-- The path without its last segment; a disk drive is not left. -/
def leaveLast (done : List (List Char)) : List (List Char) :=
  match done.getLast? with
  | some last => if isDriveLetter last then done else done.dropLast
  | none => done

/-- Follows the segments one by one from the directories in `done`. -/
def follow (done : List (List Char)) : List (List Char) → List (List Char)
  | [] => done
  | [last] =>
    if isAbove last then leaveLast done ++ [[]]
    else if isHere last then done ++ [[]]
    else done ++ [encode keptInPath last]
  | segment :: rest =>
    if isAbove segment then follow (leaveLast done) rest
    else if isHere segment then follow done rest
    else follow (done ++ [encode keptInPath segment]) rest

/-- The path of an address of the web. -/
def webPath (cs : List Char) : List Char :=
  let inner := match cs with
    | c :: rest => if isSlash .web c then rest else cs
    | [] => []
  (follow [] (segmentsOf .web inner)).flatMap fun segment => '/' :: segment

def endsPath (c : Char) : Bool := c = '?' || c = '#'

/-- What stands between the question mark and the fragment. -/
def queryOf (cs : List Char) : Option (List Char) :=
  match cs.dropWhile fun c => !endsPath c with
  | '?' :: rest => some (encode keptInQuery (rest.takeWhile (· ≠ '#')))
  | _ => none

/-! ## Whole addresses -/

def shownHost (host : List Char) : Option String :=
  if host.isEmpty then none else some (String.ofList host)

def readAuthority (kind : SchemeKind) (scheme cs : List Char) : Except AddressFault Address :=
  let (authority, rest) := cs.span fun c => !endsAuthority kind c
  match authorityHost kind (!rest.isEmpty) authority with
  | .error fault => .error fault
  | .ok (host, port) =>
    .ok ⟨String.ofList scheme, shownHost host, port,
      webPath (rest.takeWhile fun c => !endsPath c), queryOf rest⟩

/-- The host of a file. This machine and disk drives are no hosts. -/
def fileHost (given rest : List Char) : Except AddressFault (List Char) :=
  if given.isEmpty || isDriveLetter given then .ok []
  else
    match webHost given with
    | .error fault => .error fault
    | .ok host =>
      let firstSegment := (webPath (rest.takeWhile fun c => !endsPath c)).drop 1
        |>.takeWhile (· ≠ '/')
      if String.ofList host = "localhost" || isDriveLetter firstSegment then .ok [] else .ok host

def readFile (scheme cs : List Char) : Except AddressFault Address :=
  match cs with
  | a :: b :: inner =>
    if isSlash .file a && isSlash .file b then
      let (given, rest) := inner.span fun c => !endsAuthority .file c
      match fileHost given rest with
      | .error fault => .error fault
      | .ok host => .ok ⟨String.ofList scheme, shownHost host, none, [], none⟩
    else .ok ⟨String.ofList scheme, none, none, [], none⟩
  | _ => .ok ⟨String.ofList scheme, none, none, [], none⟩

def readOther (scheme cs : List Char) : Except AddressFault Address :=
  match cs with
  | '/' :: '/' :: inner => readAuthority .other scheme inner
  | _ => .ok ⟨String.ofList scheme, none, none, [], none⟩

end Url

namespace Address

def ofText (s : String) : Except AddressFault Address :=
  match Url.scheme? (Url.cleaned s) with
  | none => .error .noScheme
  | some (scheme, rest) =>
    match Url.SchemeKind.of scheme with
    | .web => Url.readAuthority .web scheme (rest.dropWhile (Url.isSlash .web))
    | .file => Url.readFile scheme rest
    | .other => Url.readOther scheme rest

/-- The address with one more field in its query. -/
def withField (a : Address) (name value : String) : Address :=
  let field := Url.encodeForm name.toList ++ '=' :: Url.encodeForm value.toList
  match a.query with
  | none => { a with query := some field }
  | some [] => { a with query := some field }
  | some given => { a with query := some (given ++ '&' :: field) }

/-- What a request asks a host of the web for. -/
def target (a : Address) : String :=
  match a.query with
  | none => String.ofList a.path
  | some query => String.ofList (a.path ++ '?' :: query)

end Address
end WarehouseJobs
