import Automation.Value.Text

namespace Automation.Log

inductive Measure where
  | absent
  | fixed (n : Nat)
  | argument
  deriving DecidableEq, Repr

structure Flags where
  left : Bool := false
  plus : Bool := false
  blank : Bool := false
  alternate : Bool := false
  zeros : Bool := false
  deriving DecidableEq, Repr

structure Directive where
  key : Option String := none
  flags : Flags := {}
  width : Measure := .absent
  places : Measure := .absent
  conversion : Option (Char × Nat) := none
  deriving DecidableEq, Repr

inductive Piece where
  | plain (c : Char)
  | directive (d : Directive)
  | openKey
  deriving DecidableEq, Repr

namespace Pattern

structure Place where
  index : Nat
  rest : List Char

def Place.skip (p : Place) (n : Nat) : Place := ⟨p.index + n, p.rest.drop n⟩

def keyLength? (depth : Nat) : List Char → Option Nat
  | [] => none
  | ')' :: cs => match depth with
    | 0 => some 0
    | d + 1 => (keyLength? d cs).map (· + 1)
  | '(' :: cs => (keyLength? (depth + 1) cs).map (· + 1)
  | _ :: cs => (keyLength? depth cs).map (· + 1)

def readFlags (f : Flags) : List Char → Flags
  | '-' :: cs => readFlags { f with left := true } cs
  | '+' :: cs => readFlags { f with plus := true } cs
  | ' ' :: cs => readFlags { f with blank := true } cs
  | '#' :: cs => readFlags { f with alternate := true } cs
  | '0' :: cs => readFlags { f with zeros := true } cs
  | _ => f

def isFlag (c : Char) : Bool := c == '-' || c == '+' || c == ' ' || c == '#' || c == '0'

def readMeasure (p : Place) : Measure × Place :=
  match p.rest with
  | '*' :: _ => (.argument, p.skip 1)
  | _ =>
    let ds := p.rest.takeWhile Char.isDigit
    if ds = [] then (.absent, p)
    else (.fixed (ds.foldl (fun n c ↦ 10 * n + (c.toNat - 48)) 0), p.skip ds.length)

def readPlaces (p : Place) : Measure × Place :=
  match p.rest with
  | '.' :: _ => match readMeasure (p.skip 1) with
    | (.absent, q) => (.fixed 0, q)
    | r => r
  | _ => (.absent, p)

def readDirective (key : Option String) (p : Place) : Piece × Place :=
  let flags := p.rest.takeWhile isFlag
  let (width, p) := readMeasure (p.skip flags.length)
  let (places, p) := readPlaces p
  let p := if p.rest.head?.any fun c ↦ c == 'h' || c == 'l' || c == 'L' then p.skip 1 else p
  (.directive {
    key
    flags := readFlags {} flags
    width
    places
    conversion := p.rest.head?.map fun c ↦ (c, p.index) }, p.skip 1)

def readPiece (p : Place) : Piece × Place :=
  match p.rest with
  | '%' :: _ => (.plain '%', p.skip 1)
  | '(' :: cs => match keyLength? 0 cs with
    | some n => readDirective (some (.ofList (cs.take n))) (p.skip (n + 2))
    | none => (.openKey, p.skip p.rest.length)
  | _ => readDirective none p

def readPieces : Nat → Place → List Piece
  | 0, _ => []
  | fuel + 1, p => match p.rest with
    | [] => []
    | '%' :: _ =>
      let (piece, p) := readPiece (p.skip 1)
      piece :: readPieces fuel p
    | c :: _ => .plain c :: readPieces fuel (p.skip 1)

/-- The pieces of a pattern. Each takes up a character at least. -/
def read (s : String) : List Piece := readPieces s.length ⟨0, s.toList⟩

end Pattern

end Automation.Log
