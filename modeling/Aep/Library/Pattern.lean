import Aep.Library.Text

/-- A regular expression with named groups. `many` is greedy and `few` is not. -/
inductive Pattern where
  | nothing
  | one (accepts : Char → Bool)
  | seq (first second : Pattern)
  | alt (first second : Pattern)
  | many (body : Pattern)
  | few (body : Pattern)
  | group (name : String) (body : Pattern)
  | atEnd

namespace Pattern

structure Match where
  groups : List (String × Text)
  rest : Text
  deriving DecidableEq

namespace Match

def group (found : Match) (name : String) : Option Text :=
  (found.groups.find? fun entry => entry.1 = name).map Prod.snd

def prepend (groups : List (String × Text)) (found : Match) : Match := { found with groups := groups ++ found.groups }

end Match

def followedBy (next : Text → List Match) (found : Match) : List Match :=
  (next found.rest).map (Match.prepend found.groups)

/-- Every way to match the body again and again. A round that matches nothing ends the repetition. -/
def repetitions (greedy : Bool) (body : Text → List Match) : (fuel : Nat) → Text → List Match
  | 0, text => [⟨[], text⟩]
  | fuel + 1, text =>
    let rounds := ((body text).filter fun found => found.rest.length < text.length).flatMap
      (followedBy (repetitions greedy body fuel))
    if greedy then rounds ++ [⟨[], text⟩] else ⟨[], text⟩ :: rounds

/-- Every way to match at the start of a text, in the order in which the matcher tries them. -/
def ways : Pattern → Text → List Match
  | .nothing, text => [⟨[], text⟩]
  | .one _, [] => []
  | .one accepts, char :: rest => if accepts char then [⟨[], rest⟩] else []
  | .seq first second, text => (ways first text).flatMap (followedBy (ways second))
  | .alt first second, text => ways first text ++ ways second text
  | .many body, text => repetitions true (ways body) text.length text
  | .few body, text => repetitions false (ways body) text.length text
  | .group name body, text =>
    (ways body text).map fun found => found.prepend [(name, text.take (text.length - found.rest.length))]
  | .atEnd, text => if text.isEmpty then [⟨[], text⟩] else []

/-- `re.match`. -/
def matchStart (pattern : Pattern) (text : Text) : Option Match := (pattern.ways text).head?

def accepted (pattern : Pattern) (text : Text) : Bool := (pattern.matchStart text).isSome

/-- `re.search`. -/
def search (pattern : Pattern) : Text → Bool
  | [] => pattern.accepted []
  | char :: rest => pattern.accepted (char :: rest) || search pattern rest

def char (expected : Char) : Pattern := .one (· = expected)

def anyOf (chars : String) : Pattern := .one (chars.toList.contains ·)

def noneOf (chars : String) : Pattern := .one fun char => !chars.toList.contains char

def any : Pattern := .one fun _ => true

def sequence (parts : List Pattern) : Pattern := parts.foldr .seq .nothing

def oneOf : List Pattern → Pattern
  | [] => .one fun _ => false
  | [last] => last
  | first :: rest => .alt first (oneOf rest)

def literal (text : String) : Pattern := sequence (text.toList.map char)

def caseless (text : Text) : Pattern := sequence (text.map fun expected => .one fun char => Text.fold char = Text.fold expected)

def optional (body : Pattern) : Pattern := .alt body .nothing

def repeated (body : Pattern) : Pattern := .seq body (.many body)

def upTo : Nat → Pattern → Pattern
  | 0, _ => .nothing
  | count + 1, body => optional (.seq body (upTo count body))

def exactly (count : Nat) (body : Pattern) : Pattern := sequence (List.replicate count body)

def atLeast (count : Nat) (body : Pattern) : Pattern := .seq (exactly count body) (.many body)

def space : Pattern := .one Text.isSpace

end Pattern
