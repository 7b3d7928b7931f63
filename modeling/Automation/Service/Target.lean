import Automation.Number.Numeral
import Automation.Service.Path
import Automation.Text.Quoted

namespace Automation.Service

inductive Undelivered where
  | unprintable (c : Char) (position : Nat)
  | rootedTwice
  | startsWithColon
  | unreadableSocket (socket : String)
  | unknownScheme (scheme : String)
  | tooManyMoves
  deriving DecidableEq, Repr

def Undelivered.message : Undelivered → String
  | .unprintable c position =>
    "Invalid non-printable ASCII character in URL, " ++ Text.quoted (String.singleton c) ++
      " at position " ++ intText position ++ "."
  | .rootedTwice => "Relative URLs cannot have a path starting with '//'"
  | .startsWithColon => "Relative URLs cannot have a path starting with ':'"
  | .unreadableSocket socket => "Invalid port: " ++ Text.quoted socket
  | .unknownScheme scheme => Text.quoted scheme
  | .tooManyMoves => "Exceeded maximum allowed redirects."

structure Target where
  scheme : List Char
  host : List Char
  socket : List Char
  path : List Char
  deriving DecidableEq, Repr

namespace Target

def isSchemeChar (c : Char) : Bool := c.isAlphanum || c == '+' || c == '.' || c == '-'

def takeScheme (cs : List Char) : List Char × List Char :=
  let name := cs.takeWhile isSchemeChar
  match cs.drop name.length with
  | ':' :: rest => if name.head?.all Char.isAlpha then (name, rest) else ([], cs)
  | _ => ([], cs)

def hostAndSocket (authority : List Char) : List Char × List Char :=
  let place := (authority.reverse.takeWhile (· ≠ '@')).reverse
  let host :=
    if place.head? = some '[' ∧ place.contains ']' then
      place.take (place.length - (place.reverse.takeWhile (· ≠ ']')).length)
    else place.takeWhile (· ≠ ':')
  match place.drop host.length with
  | ':' :: socket => (host, socket)
  | socket => (host, socket)

def takeAuthority : List Char → List Char × List Char
  | '/' :: '/' :: cs =>
    let isInside (c : Char) : Bool := c != '/' && c != '?' && c != '#'
    (cs.takeWhile isInside, cs.dropWhile isInside)
  | cs => ([], cs)

def takePath (cs : List Char) : List Char := cs.takeWhile fun c ↦ c != '?' && c != '#'

def ofChars (cs : List Char) : Target :=
  let (scheme, rest) := takeScheme cs
  let (authority, rest) := takeAuthority rest
  let (host, socket) := hostAndSocket authority
  { scheme := scheme.map Char.toLower, host, socket, path := takePath rest }

def isSocket (socket : List Char) : Bool :=
  (dropGrouping? false ((Text.trim socket).map Text.toPlainDigit)).any fun ds ↦
    (readDigits? (takeSign ds).2).isSome

def schemes : List String := ["http", "https", "ws", "wss"]

def fault? (t : Target) : Option Undelivered :=
  if t.socket ≠ [] ∧ !isSocket t.socket then some (.unreadableSocket (.ofList t.socket))
  else if t.host = [] then
    if t.scheme ≠ [] ∨ t.socket ≠ [] then none
    else if ['/', '/'].isPrefixOf t.path then some .rootedTwice
    else if t.path.head? = some ':' then some .startsWithColon
    else none
  else if t.scheme = [] ∨ schemes.contains (.ofList t.scheme) then none
  else some (.unknownScheme (.ofList t.scheme))

def steps : List Char → List (List Char)
  | [] => [[]]
  | c :: cs =>
    if c = '/' then [] :: steps cs
    else match steps cs with
      | [] => [[c]]
      | p :: ps => (c :: p) :: ps

/-- Takes one step; `taken` are those before it, backwards, the first of them the empty one in front
of the path, which stays. -/
def takeStep (taken : List (List Char)) (s : List Char) : List (List Char) :=
  if s = ['.'] then taken
  else if s = ['.', '.'] then (match taken with
    | [] | [[]] => taken
    | _ :: before => before)
  else s :: taken

def direct (path : List Char) : List Char :=
  let taken := (steps path).foldl takeStep []
  match ['/'].intercalate taken.reverse with
  | [] => ['/']
  | cs => cs

def arrival (path : List Char) : String := .ofList (unescaped (unescaped (direct path)))

def destination (target : String) : Except Undelivered String :=
  let cs := target.toList
  let isUnprintable (c : Char) : Bool := c.toNat < 0x20 || c.toNat == 0x7F
  match cs.find? isUnprintable with
  | some c => .error (.unprintable c (cs.takeWhile (· ≠ c)).length)
  | none =>
    let t := ofChars cs
    match t.fault? with
    | some f => .error f
    | none =>
      let path := if t.scheme = [] then t.path else direct t.path
      .ok (arrival (
        if t.scheme ≠ [] ∧ t.host ≠ [] then path else '/' :: path.dropWhile (· == '/')))

def moved (path : String) : String := arrival path.toList

/-- The path as records show it: without breaks of lines, and with escapes for what would end it. -/
def shown (path : String) : String :=
  .ofList (path.toList.flatMap fun c ↦
    if c = '\t' ∨ c = '\r' ∨ c = '\n' then []
    else if c = '?' then "%3F".toList
    else if c = '#' then "%23".toList
    else [c])

end Target

end Automation.Service
