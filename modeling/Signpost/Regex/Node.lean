import Signpost.Regex.CharSet
import Signpost.Unicode.Class

/-!
# Matching

A regular expression in its bare form, and the order in which it matches.
`Node.run` lists the spots where a match that begins at a given spot can end,
the preferred one first and none twice: of two ways to reach a place in the
text, only the preferred one counts.  The first entry is what the whole
expression matches when nothing follows it.
-/

namespace Signpost.Regex

inductive WordLook where
  | boundary | notBoundary | start | stop | startHalf | stopHalf
  deriving DecidableEq, Repr

inductive Look where
  | startText | endText
  | startLine | endLine
  /-- Lines may end in a carriage return, a line feed, or the two together. -/
  | startAnyLine | endAnyLine
  | word (kind : WordLook) (unicode : Bool)
  deriving DecidableEq, Repr

inductive Node where
  | empty
  | one (set : CharSet)
  | look (kind : Look)
  | seq (first second : Node)
  | alt (first second : Node)
  | loop (body : Node) (least : Nat) (most : Option Nat) (greedy : Bool)
  | group (index : Nat) (body : Node)
  deriving DecidableEq, Repr

structure Span where
  source : List Char
  length : Nat
  deriving DecidableEq, Repr

def Span.text (span : Span) : List Char := span.source.take span.length

/--
A place in the text with the groups matched on the way to it, latest first.
-/
structure Spot where
  pos : Nat := 0
  before : Option Char := none
  rest : List Char
  groups : List (Nat × Span) := []
  deriving DecidableEq, Repr

namespace Spot

def advance (spot : Spot) (c : Char) (rest : List Char) : Spot :=
  { spot with pos := spot.pos + 1, before := some c, rest }

def capture (index : Nat) (start stop : Spot) : Spot :=
  { stop with groups := (index, ⟨start.rest, stop.pos - start.pos⟩) ::
    stop.groups }

def group? (spot : Spot) (index : Nat) : Option (List Char) :=
  (spot.groups.find? fun group => group.1 = index).map fun group => group.2.text

end Spot

def isWord (unicode : Bool) : Option Char → Bool
  | none => false
  | some c => if unicode then Unicode.isWordCharacter c
      else c.isAlphanum || c = '_'

def WordLook.holds (kind : WordLook) (before after : Bool) : Bool :=
  match kind with
  | .boundary => before != after
  | .notBoundary => before == after
  | .start => !before && after
  | .stop => before && !after
  | .startHalf => !before
  | .stopHalf => !after

def Look.holds (look : Look) (before after : Option Char) : Bool :=
  match look with
  | .startText => before = none
  | .endText => after = none
  | .startLine => before = none || before = some '\n'
  | .endLine => after = none || after = some '\n'
  | .startAnyLine =>
    before = none || before = some '\n' ||
      (before = some '\r' && after != some '\n')
  | .endAnyLine =>
    after = none || after = some '\r' ||
      (after = some '\n' && before != some '\r')
  | .word kind unicode => kind.holds (isWord unicode before)
      (isWord unicode after)

/-- A set of places, kept as the bits of a number. -/
abbrev Places := Nat

def Places.has (places : Places) (pos : Nat) : Bool := Nat.testBit places pos

def Places.add (places : Places) (pos : Nat) : Places := places ||| 1 <<< pos

def distinctFrom (seen : Places) : List Spot → List Spot
  | [] => []
  | spot :: rest =>
    if seen.has spot.pos then distinctFrom seen rest
    else spot :: distinctFrom (seen.add spot.pos) rest

def distinct : List Spot → List Spot
  | [] => []
  | [spot] => [spot]
  | spots => distinctFrom 0 spots

def andThen (spots : List Spot) (body : Spot → List Spot) : List Spot :=
  distinct (spots.flatMap body)

def exactly (body : Spot → List Spot) : Nat → List Spot → List Spot
  | 0, spots => spots
  | _ + 1, [] => []
  | count + 1, spots => exactly body count (andThen spots body)

/--
Visits a spot where one round of a loop has ended, and all that further rounds
reach from it, skipping places visited before.  Spots are put in front of those
visited earlier; a greedy loop goes on before it rests.
-/
def visit (body : Spot → List Spot) (greedy : Bool) :
    Nat → Spot → Places × List Spot → Places × List Spot
  | 0, spot, (seen, out) => (seen, spot :: out)
  | fuel + 1, spot, (seen, out) =>
    let (seen, out) :=
      (body spot).foldl
        (fun reached next =>
          if reached.1.has next.pos then reached
          else visit body greedy fuel next (reached.1.add next.pos, reached.2))
        (seen, if greedy then out else spot :: out)
    (seen, if greedy then spot :: out else out)

def oneOrMore (body : Spot → List Spot) (greedy : Bool)
    (spot : Spot) : List Spot :=
  ((body spot).foldl
    (fun reached next =>
      if reached.1.has next.pos then reached
      else
        let seen := reached.1.add next.pos
        -- a round that takes nothing is not followed by another
        if next.pos = spot.pos then (seen, next :: reached.2)
        else visit body greedy spot.rest.length next (seen, reached.2))
    ((0 : Places), [])).2.reverse

def zeroOrMore (body : Spot → List Spot) (greedy : Bool)
    (spot : Spot) : List Spot :=
  let rounds := oneOrMore body greedy spot
  distinct (if greedy then rounds ++ [spot] else spot :: rounds)

/--
At most `count` rounds, with the places visited before each round kept apart,
those of the first round first.
-/
def visitUpTo (body : Spot → List Spot) (greedy : Bool) :
    Nat → Spot → List Places × List Spot → List Places × List Spot
  | 0, spot, (seen, out) => (seen, spot :: out)
  | count + 1, spot, (seen, out) =>
    let (here, later, out) :=
      (body spot).foldl
        (fun reached next =>
          if reached.1.has next.pos then reached
          else
            let (later, out) := visitUpTo body greedy count next reached.2
            (reached.1.add next.pos, later, out))
        (seen.headD 0, seen.tail, if greedy then out else spot :: out)
    (here :: later, if greedy then spot :: out else out)

def upTo (body : Spot → List Spot) (greedy : Bool) (count : Nat) (spot : Spot) :
    List Spot :=
  distinct (visitUpTo body greedy count spot ([], [])).2.reverse

def Node.run : Node → Spot → List Spot
  | empty, spot => [spot]
  | one set, spot =>
    match spot.rest with
    | [] => []
    | c :: rest => if set.contains c then [spot.advance c rest] else []
  | look kind, spot => if kind.holds spot.before spot.rest.head? then [spot]
      else []
  | seq first second, spot => andThen (first.run spot) second.run
  | alt first second, spot => distinct (first.run spot ++ second.run spot)
  | loop body least most greedy, spot =>
    match most with
    | some most =>
      andThen (exactly body.run least [spot])
        (upTo body.run greedy (most - least))
    | none =>
      match least with
      | 0 => zeroOrMore body.run greedy spot
      | least + 1 => andThen (exactly body.run least [spot])
          (oneOrMore body.run greedy)
  | group index body, spot => (body.run spot).map (Spot.capture index spot)

/--
The leftmost match from a spot on, and of those at one place the preferred one.
-/
def Node.searchFrom (node : Node) (before : Option Char) (pos : Nat) :
    List Char → Option Spot
  | [] => (node.run { pos, before, rest := [] }).head?
  | c :: rest =>
    match node.run { pos, before, rest := c :: rest } with
    | spot :: _ => some spot
    | [] => node.searchFrom (some c) (pos + 1) rest

def Node.search (node : Node) (text : List Char) : Option Spot :=
  node.searchFrom none 0 text

def Node.highestGroup : Node → Nat
  | seq first second | alt first second =>
      max first.highestGroup second.highestGroup
  | loop body _ _ _ => body.highestGroup
  | group index body => max index body.highestGroup
  | _ => 0

end Signpost.Regex
