import OrderOfGrowth.Glob.Basic

/-! # Plans — what a glob has to look at

    Many globs can be decided without going through their tokens one by one:

    * `name`, `extension`: from the name of the path alone;
    * `whole`, `start`, `finish`: by comparing the path, or one end of it, with a given text;
    * `required`: the extension of the name has to be right before anything else is tried;
    * `component`: from the last component of the path, which is spelled with classes too;
    * `general`: only by going through the tokens.

    For a path that ends in a name, all plans come to the same as going through the tokens.  A path
    that ends in two dots leads to some other directory and has no name, so a glob that asks for a
    name or an extension refuses it. -/

namespace OrderOfGrowth.Glob

/-- What a glob has to look at. -/
inductive Plan where
  | name
  | whole
  | extension
  | start
  | finish
  | required
  | component
  | general
deriving DecidableEq

/-- The text that the tokens spell, if they all are literals. -/
def literals? : List Token → Option Text
  | [] => some []
  | .literal c :: ts => (literals? ts).map (c :: ·)
  | _ :: _ => none

/-- Do the tokens spell a text that passes the test? -/
def spell (test : Text → Bool) (ts : List Token) : Bool := (literals? ts).any test

/-- The tokens without a double star and its slash in the first place. -/
def withoutLeading : List Token → List Token
  | .leading :: ts => ts
  | ts => ts

/-- Is a name spelled out, in any directory? -/
def isName : List Token → Bool
  | .leading :: ts => spell (fun t => !t.isEmpty && !t.contains '/') ts
  | _ => false

/-- Is there only a star in front of an extension? -/
def isExtension (ts : List Token) : Bool :=
  match withoutLeading ts with
  | .anyBytes :: .literal '.' :: ext => spell (fun t => !t.contains '.' && !t.contains '/') ext
  | _ => false

/-- Is a text spelled out that the path starts with? -/
def isStart (ts : List Token) : Bool :=
  match ts.getLast? with
  | some .anyBytes => spell (!·.isEmpty) ts.dropLast
  | some .trailing => spell (fun _ => true) ts.dropLast
  | _ => false

/-- Is a text spelled out that the path ends with, other than a lone slash? -/
def isFinish : List Token → Bool
  | .leading :: .anyBytes :: ts => spell (fun t => !t.isEmpty && t != ['/']) ts
  | .leading :: ts => spell (!·.isEmpty) ts
  | .anyBytes :: ts => spell (fun t => !t.isEmpty && t != ['/']) ts
  | _ => false

/-- Do the tokens, from the last one on, spell an extension? -/
def endsInExtension : (reversed : List Token) → Bool
  | .literal c :: ts => c != '/' && (c == '.' || endsInExtension ts)
  | _ => false

/-- Does the token stand for one character or byte, other than a slash? -/
def Token.isInsideComponent : Token → Bool
  | .literal c => c != '/'
  | .oneOf negated ranges => !classAccepts negated ranges slash
  | _ => false

/-- Is a component spelled out with literals and classes, in any directory? -/
def isComponent : List Token → Bool
  | .leading :: ts => !ts.isEmpty && ts.all Token.isInsideComponent
  | _ => false

/-- The plan of a glob: the first that fits. -/
def plan (g : Glob) : Plan :=
  if isName g.tokens then .name
  else if spell (!·.isEmpty) g.tokens then .whole
  else if isExtension g.tokens then .extension
  else if isStart g.tokens then .start
  else if isFinish g.tokens then .finish
  else if endsInExtension g.tokens.reverse then .required
  else if isComponent g.tokens then .component
  else .general

/-- Does the plan ask for the name of the path? -/
def Plan.asksForName : Plan → Bool
  | .name => true
  | .extension => true
  | .required => true
  | _ => false

/-- The part of a path behind its last slash. -/
def lastComponent (path : Path) : Name := (path.reverse.takeWhile (· != slash)).reverse

/-- Has the path a name? -/
def hasName (path : Path) : Bool := lastComponent path != [dot, dot]

end OrderOfGrowth.Glob
