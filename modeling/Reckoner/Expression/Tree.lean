import Reckoner.Expression.Error

/-!
The structure of an expression, independent of any function's meaning. Brackets and signs are kept,
so that a tree shows how its tokens were read. Reading never fails: where the tokens stop making
sense the tree has a fault, and everything read before it stands to its left, so that the first
thing to go wrong in reading order is the first that an evaluation meets.
-/

namespace Reckoner.Expression

inductive Binary where
  | add | subtract | multiply | divide | power
deriving DecidableEq, Repr

inductive Tree where
  | number (value : Binary64)
  /-- A name without a bracket after it. -/
  | name (name : String) (position : Nat)
  /-- A name with a bracket directly after it. -/
  | call (function : String) (position : Nat) (argument : Tree)
  | group (inner : Tree)
  | plus (operand : Tree)
  | negate (operand : Tree)
  /-- Two operands; the position is that of the operator. -/
  | binary (operator : Binary) (position : Nat) (left right : Tree)
  /-- Two factors without an operator between them. They are kept apart from a written product
  because the right one is read by another rule, which takes no sign. -/
  | adjoined (left right : Tree)
  | factorial (operand : Tree)
  /-- Nothing could be read here. -/
  | fault (cause : Error)
  /-- Something was read, and what follows it does not belong there. -/
  | broken (read : Tree) (cause : Error)

/-- What has been opened and awaits its last part. Frames keep what has been read on their left, so
closing one gives a tree. -/
inductive Frame where
  | binary (operator : Binary) (position : Nat) (left : Tree)
  /-- A factor has been read, and another one begins without an operator. -/
  | adjoined (left : Tree)
  | sign (negative : Bool)
  /-- A bracket opened here. -/
  | group (opening : Nat)
  | call (function : String) (position opening : Nat)

/-- How tightly an operator binds. Signs stand between products and powers, so a sign applies to a
power and not to its base. -/
def Binary.rank : Binary → Nat
  | add | subtract => 1
  | multiply | divide => 2
  | power => 4

namespace Frame

/-- How tightly a frame holds what follows it; a bracket holds everything up to its end, and no
operator closes it. -/
def rank : Frame → Nat
  | binary operator _ _ => operator.rank
  | adjoined _ => Binary.multiply.rank
  | sign _ => 3
  | group _ | call .. => 0

/-- How many more rules of the grammar are open inside the frame than around it. A bracket is
entered through all seven levels of the grammar, an exponent through two, a sign through one; the
left operands of sums and products are complete. A factor without an operator is read past the level
of signs, where every other operand is entered, so one rule less is open in it. -/
def depth : Frame → Int
  | binary .power _ _ => 2
  | binary .. => 0
  | adjoined _ => -1
  | sign _ => 1
  | group _ | call .. => 7

def close : Frame → Tree → Tree
  | binary operator position left, tree => .binary operator position left tree
  | adjoined left, tree => .adjoined left tree
  | sign true, tree => .negate tree
  | sign false, tree => .plus tree
  | group _, tree => .group tree
  | call function position _, tree => .call function position tree

end Frame

/-- How many rules of the grammar may be open at once. -/
def depthLimit : Int := 960

/-- How many more rules are open where an operand inside the frames begins than where the first
operand of an expression does. -/
def openDepth : List Frame → Int
  | [] => 0
  | frame :: rest => frame.depth + openDepth rest

/-- Close the innermost frames that bind at least as tightly as `rank`. They are closed from the
inside, and each takes the tree of the one within it as its last part. -/
def reduce (rank : Nat) : List Frame → Tree → List Frame × Tree
  | [], tree => ([], tree)
  | frame :: frames, tree =>
    if rank ≤ frame.rank then reduce rank frames (frame.close tree) else (frame :: frames, tree)

def closeAll (frames : List Frame) (tree : Tree) : Tree := frames.foldl (fun t f => f.close t) tree

/-- How far the reading of an expression has come; frames are listed from the innermost on. A
reading that was stopped keeps its tree, whatever tokens follow. -/
inductive Progress where
  | operand (frames : List Frame)
  /-- A name has come, which may turn out to be a function. -/
  | named (frames : List Frame) (name : String) (position : Nat)
  | complete (frames : List Frame) (tree : Tree)
  | stopped (tree : Tree)

namespace Progress

def fail (frames : List Frame) (cause : Error) : Progress :=
  .stopped (closeAll frames (.fault cause))

/-- Open a frame and expect an operand in it, unless too much is open already. The limit counts the
frame itself, so it is met before the operand is looked at. -/
def enter (frame : Frame) (frames : List Frame) : Progress :=
  if openDepth (frame :: frames) ≤ depthLimit then .operand (frame :: frames)
  else fail (frame :: frames) .tooDeep

def readOperand (frames : List Frame) (token : Token) : Progress :=
  match token.lexeme with
  | .number value => .complete frames (.number value)
  | .name name => .named frames name token.position
  | .opening => enter (.group token.position) frames
  | .operator .plus => enter (.sign false) frames
  | .operator .minus => enter (.sign true) frames
  | lexeme => fail frames (.unexpectedToken lexeme token.position)

/-- End the innermost bracket, or the whole expression, at a token that cannot belong to it. Inside
a bracket the fault is that it was not closed; outside it is the token. -/
def readForeign (frames : List Frame) (tree : Tree) (cause : Error) : Progress :=
  let (outer, tree) := reduce 1 frames tree
  match outer with
  | .group opening :: _ | .call _ _ opening :: _ =>
    .stopped (closeAll outer (.broken tree (.unclosed opening)))
  | _ => .stopped (closeAll outer (.broken tree cause))

def readClosing (frames : List Frame) (tree : Tree) (position : Nat) : Progress :=
  let (outer, tree) := reduce 1 frames tree
  match outer with
  | [] => .stopped (.broken tree (.unmatchedClosing position))
  | frame :: outer => .complete outer (frame.close tree)

/-- Read an operator of the given rank after a complete operand. What binds as tightly is closed
before, so operators of one rank group to the left. -/
def readBinary (operator : Binary) (frames : List Frame) (tree : Tree) (position : Nat) :
    Progress :=
  let (outer, tree) := reduce operator.rank frames tree
  .operand (.binary operator position tree :: outer)

/-- Read a token after a complete operand. A name or an opening bracket multiplies. A number does
not: it cannot belong to what was read. -/
def readAfter (frames : List Frame) (tree : Tree) (token : Token) : Progress :=
  match token.lexeme with
  | .operator .plus => readBinary .add frames tree token.position
  | .operator .minus => readBinary .subtract frames tree token.position
  | .operator .times => readBinary .multiply frames tree token.position
  | .operator .divide => readBinary .divide frames tree token.position
  | .operator .power => enter (.binary .power token.position tree) frames
  | .operator .bang => .complete frames (.factorial tree)
  | .closing => readClosing frames tree token.position
  | .number value => readForeign frames tree (.unexpectedToken (.number value) token.position)
  | .name _ | .opening =>
    let (outer, tree) := reduce Binary.multiply.rank frames tree
    readOperand (.adjoined tree :: outer) token

def read : Progress → Token → Progress
  | .operand frames, token => readOperand frames token
  | .named frames name position, token =>
    match token.lexeme with
    | .opening => enter (.call name position token.position) frames
    | _ => readAfter frames (.name name position) token
  | .complete frames tree, token => readAfter frames tree token
  | .stopped tree, _ => .stopped tree

/-- The tree when the tokens end after a complete operand. A bracket that is still open then makes
it a fault, after whatever is wrong within it. -/
def finishValue (frames : List Frame) (tree : Tree) : Tree :=
  let (outer, tree) := reduce 1 frames tree
  match outer with
  | .group opening :: _ | .call _ _ opening :: _ =>
    closeAll outer (.broken tree (.unclosed opening))
  | _ => tree

def finish : Progress → Tree
  | .operand frames => closeAll frames (.fault .unexpectedEnd)
  | .named frames name position => finishValue frames (.name name position)
  | .complete frames tree => finishValue frames tree
  | .stopped tree => tree

end Progress

def Tree.ofTokens (tokens : List Token) : Tree :=
  if tokens.isEmpty then .fault .empty
  else (tokens.foldl Progress.read (.operand [])).finish

end Reckoner.Expression
