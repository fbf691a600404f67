import Declare.Condition.Token

/-!
# Reading conditions

Conditions are read by recursive descent: disjunctions of conjunctions of atoms, where an atom is a
constant, a comparison of attributes, or a condition in parentheses. Both connectives associate to
the left. Each reader takes tokens from the front of a list and returns what is left, which is
shorter; so reading ends on every text.

While a condition is read it is checked against the catalog of attributes: an attribute has to be
known, comparisons with numbers need a numeric domain or none, and conditions on the activating
event alone cannot speak of the target.

A time condition spells a window, which bounds the time between two events in whole milliseconds
with both ends included. It is written as its two ends and a unit, `0.5,2,h` or `0.5,2h`.
-/

namespace Declare

/-- Which events a condition may speak of. -/
inductive Role where
  | activation
  | correlation
deriving Repr, DecidableEq

/-- What is wrong with a condition. -/
inductive ConditionProblem where
  | malformed (cause : Condition.Malformed)
  | unknownAttribute (attr : String)
  /-- An operator or a literal that the domain of the attribute does not admit. -/
  | inapplicable (operator attr domain : String)
  /-- A condition on the activating event alone that speaks of the target. -/
  | targetInActivation
  | notATimeWindow
deriving Repr, DecidableEq

/-- A condition and what is wrong with it. -/
structure ConditionError where
  text : String
  problem : ConditionProblem
deriving Repr, DecidableEq

/-- The description of an error. -/
def ConditionError.message (e : ConditionError) : String :=
  match e.problem with
  | .malformed cause => "invalid condition `" ++ e.text ++ "`: " ++ cause.message
  | .unknownAttribute attr => "condition refers to unknown attribute `" ++ attr ++ "`"
  | .inapplicable operator attr domain =>
    "`" ++ operator ++ "` cannot be applied to attribute `" ++ attr ++ "` with domain `" ++
      domain ++ "`"
  | .targetInActivation => "activation condition `" ++ e.text ++ "` refers to the target event"
  | .notATimeWindow =>
    "invalid time condition `" ++ e.text ++
      "` (expected `<min>,<max>,<unit>` with unit s, m, h or d)"

namespace Condition

/-- What a condition is checked against. -/
structure Scope where
  role : Role
  catalog : Catalog

/-- A reading, with at most the given tokens left. -/
abbrev Reads (α : Type) (tokens : List Token) := Except ConditionProblem (α × Rest tokens)

/-- A reading that takes at least one of the given tokens. -/
abbrev Takes (α : Type) (tokens : List Token) := Except ConditionProblem (α × ProperRest tokens)

namespace Takes

variable {α : Type} {tokens : List Token}

/-- What is read from tokens is read from more tokens in front of them. -/
def cons {t : Token} (r : Takes α tokens) : Takes α (t :: tokens) :=
  r.map fun (a, rest) => (a, rest.cons)

/-- A reading may take more than it has to. -/
def toReads (r : Takes α tokens) : Reads α tokens :=
  r.map fun (a, rest) => (a, rest.toRest)

end Takes

/-- What is read after a token is read from the token on. -/
def Reads.proper {α : Type} {t : Token} {tokens : List Token} (r : Reads α tokens) :
    Takes α (t :: tokens) :=
  r.map fun (a, rest) => (a, rest.proper)

/-- The operand that a word stands for. -/
def Operand.ofWord (w : String) : Operand :=
  match w.toList with
  | 'A' :: '.' :: attr => ⟨.activation, .ofList attr⟩
  | 'T' :: '.' :: attr => ⟨.target, .ofList attr⟩
  | _ => ⟨.activation, w⟩

/-- Whether a token can be a part of an unquoted value. -/
def isValuePart : Token → Bool
  | .word w => !Token.spells ['a', 'n', 'd'] w && !Token.spells ['o', 'r'] w
  | _ => false

/-- Reads a value: a quoted text, or words up to a connective or a token of another kind. -/
def readValue (tokens : List Token) : Takes String tokens :=
  match tokens with
  | .quoted s :: rest => .ok (s, .tail _ rest)
  | t :: rest =>
    if isValuePart t then
      .ok (" ".intercalate ((t :: rest.takeWhile isValuePart).map Token.text),
        (Rest.dropWhile isValuePart rest).proper)
    else .error (.malformed .missingValue)
  | [] => .error (.malformed .missingValue)

/-- Reads values with commas between them, up to a closing parenthesis. -/
def readValues (tokens : List Token) : Takes (List String) tokens :=
  match readValue tokens with
  | .error e => .error e
  | .ok (v, rest) =>
    match rest.next? with
    | some (.closeParen, rest) => .ok ([v], rest)
    | some (.comma, rest) =>
      match readValues rest.list with
      | .error e => .error e
      | .ok (vs, rest') => .ok (v :: vs, rest.trans rest'.toRest)
    | _ => .error (.malformed .unclosedValues)
termination_by tokens.length
decreasing_by exact rest.lt

/-- Literals that are compared with a numeric attribute have to be numbers. -/
def checkLiterals (scope : Scope) (attr operator : String) (values : List String) :
    Except ConditionProblem Unit :=
  match scope.catalog.domain? attr with
  | some domain =>
    if domain.isNumeric && values.any fun v => (Decimal.read? v.toList).isNone then
      .error (.inapplicable operator attr domain.text)
    else .ok ()
  | none => .ok ()

/-- Only attributes with a numeric domain or none are compared with numbers. -/
def checkComparison (scope : Scope) (attr : String) (c : Comparison) :
    Except ConditionProblem Unit :=
  match scope.catalog.domain? attr with
  | some domain =>
    if domain.isNumeric then .ok () else .error (.inapplicable c.symbol attr domain.text)
  | none => .ok ()

/-- The attributes of a condition have to be known. -/
def checkAttribute (scope : Scope) (attr : String) : Except ConditionProblem Unit :=
  if scope.catalog.knows attr then .ok () else .error (.unknownAttribute attr)

/-- Reads the value that an attribute is, or is not. -/
def readIsValue (scope : Scope) (o : Operand) (negated : Bool) (tokens : List Token) :
    Takes Condition tokens := do
  let (v, rest) ← readValue tokens
  checkLiterals scope o.attr "is" [v]
  .ok (Condition.is o v negated, rest)

/-- Reads what follows `is`. -/
def readIs (scope : Scope) (o : Operand) (tokens : List Token) : Takes Condition tokens :=
  match tokens with
  | t :: rest =>
    if t.isKeyword ['n', 'o', 't'] then (readIsValue scope o true rest).cons
    else readIsValue scope o false (t :: rest)
  | [] => .error (.malformed .missingValue)

/-- Reads what follows `in`. -/
def readMember (scope : Scope) (o : Operand) (negated : Bool) (tokens : List Token) :
    Takes Condition tokens :=
  match tokens with
  | .openParen :: rest => do
    let (values, rest) ← readValues rest
    checkLiterals scope o.attr "in" values
    .ok (Condition.member o values negated, rest.cons)
  | _ => .error (.malformed .unopenedValues)

/-- Reads the number that an attribute is compared with. -/
def readBound (scope : Scope) (o : Operand) (c : Comparison) (tokens : List Token) :
    Takes Condition tokens :=
  match tokens with
  | .word w :: rest =>
    match Decimal.read? w.toList with
    | some bound => do
      checkComparison scope o.attr c
      .ok (Condition.compare o c bound, .tail _ rest)
    | none => .error (.malformed (.missingNumber c))
  | _ => .error (.malformed (.missingNumber c))

/-- Reads what follows `not`. -/
def readNotMember (scope : Scope) (o : Operand) (tokens : List Token) : Takes Condition tokens :=
  match tokens with
  | t :: rest =>
    if t.isKeyword ['i', 'n'] then (readMember scope o true rest).cons
    else .error (.malformed .missingIn)
  | [] => .error (.malformed .missingIn)

/-- Reads what a condition says of an attribute. -/
def readPredicate (scope : Scope) (o : Operand) (tokens : List Token) : Takes Condition tokens :=
  match tokens with
  | [] => .error (.malformed (.missingPredicate o.attr none))
  | t :: rest =>
    if t.isKeyword ['i', 's'] then (readIs scope o rest).cons
    else if t.isKeyword ['i', 'n'] then (readMember scope o false rest).cons
    else if t.isKeyword ['n', 'o', 't'] then (readNotMember scope o rest).cons
    else
      match t with
      | .comparison c => (readBound scope o c rest).cons
      | _ => .error (.malformed (.missingPredicate o.attr (some t.text)))

/-- Reads the attribute after `same` or `different`. -/
def readShared (scope : Scope) (keyword : String) (make : String → Condition)
    (tokens : List Token) : Takes Condition tokens :=
  match tokens with
  | .word attr :: rest =>
    if scope.role = .activation then .error .targetInActivation
    else do
      checkAttribute scope attr
      .ok (make attr, .tail _ rest)
  | _ => .error (.malformed (.missingOperand keyword))

/-- Reads an atom that begins with an operand. -/
def readOperand (scope : Scope) (w : String) (tokens : List Token) : Takes Condition tokens :=
  let o := Operand.ofWord w
  if o.attr.isEmpty then .error (.malformed (.missingAttribute w))
  else if o.side = .target ∧ scope.role = .activation then .error .targetInActivation
  else do
    checkAttribute scope o.attr
    readPredicate scope o tokens

/-- Reads an atom that begins with a word. -/
def readWord (scope : Scope) (w : String) (tokens : List Token) : Reads Condition tokens :=
  if Token.spells "true".toList w then .ok (.const true, .all tokens)
  else if Token.spells "false".toList w then .ok (.const false, .all tokens)
  else if Token.spells "same".toList w then (readShared scope w .same tokens).toReads
  else if Token.spells "different".toList w then (readShared scope w .different tokens).toReads
  else (readOperand scope w tokens).toReads

mutual

/-- Reads a constant, a predicate, or a condition in parentheses. -/
def readAtom (scope : Scope) (tokens : List Token) : Takes Condition tokens :=
  match tokens with
  | [] => .error (.malformed .unexpectedEnd)
  | .openParen :: inner =>
    match readOr scope inner with
    | .error e => .error e
    | .ok (c, rest) =>
      match rest.next? with
      | some (.closeParen, rest) => .ok (c, rest.cons)
      | _ => .error (.malformed .unclosedParenthesis)
  | .word w :: rest => (readWord scope w rest).proper
  | t :: _ => .error (.malformed (.unexpected t.text))
termination_by (tokens.length, 0)
decreasing_by exact .left _ _ (ProperRest.tail _ inner).lt

/-- Reads atoms with `and` between them. -/
def readAnd (scope : Scope) (tokens : List Token) : Takes Condition tokens :=
  match readAtom scope tokens with
  | .error e => .error e
  | .ok (left, rest) =>
    match readAndTail scope left rest.list with
    | .error e => .error e
    | .ok (c, rest') => .ok (c, rest.trans rest')
termination_by (tokens.length, 1)
decreasing_by
  · exact .right _ Nat.zero_lt_one
  · exact .left _ _ rest.lt

/-- Reads what is joined to a condition by `and`. -/
def readAndTail (scope : Scope) (left : Condition) (tokens : List Token) :
    Reads Condition tokens :=
  match tokens with
  | [] => .ok (left, .all [])
  | t :: more =>
    if t.isKeyword ['a', 'n', 'd'] then
      match readAtom scope more with
      | .error e => .error e
      | .ok (right, rest) =>
        match readAndTail scope (.and left right) rest.list with
        | .error e => .error e
        | .ok (c, rest') => .ok (c, (rest.trans rest').cons.toRest)
    else .ok (left, .all (t :: more))
termination_by (tokens.length, 0)
decreasing_by
  · exact .left _ _ (ProperRest.tail _ more).lt
  · exact .left _ _ rest.cons.lt

/-- Reads conjunctions with `or` between them. -/
def readOr (scope : Scope) (tokens : List Token) : Takes Condition tokens :=
  match readAnd scope tokens with
  | .error e => .error e
  | .ok (left, rest) =>
    match readOrTail scope left rest.list with
    | .error e => .error e
    | .ok (c, rest') => .ok (c, rest.trans rest')
termination_by (tokens.length, 2)
decreasing_by
  · exact .right _ Nat.one_lt_two
  · exact .left _ _ rest.lt

/-- Reads what is joined to a condition by `or`. -/
def readOrTail (scope : Scope) (left : Condition) (tokens : List Token) :
    Reads Condition tokens :=
  match tokens with
  | [] => .ok (left, .all [])
  | t :: more =>
    if t.isKeyword ['o', 'r'] then
      match readAnd scope more with
      | .error e => .error e
      | .ok (right, rest) =>
        match readOrTail scope (.or left right) rest.list with
        | .error e => .error e
        | .ok (c, rest') => .ok (c, (rest.trans rest').cons.toRest)
    else .ok (left, .all (t :: more))
termination_by (tokens.length, 0)
decreasing_by
  · exact .left _ _ (ProperRest.tail _ more).lt
  · exact .left _ _ rest.cons.lt

end

/-- The condition that tokens spell; no token at all is the constant `true`. -/
def ofTokens (scope : Scope) (tokens : List Token) : Except ConditionProblem Condition :=
  match tokens with
  | [] => .ok (.const true)
  | _ =>
    match readOr scope tokens with
    | .error e => .error e
    | .ok (c, rest) =>
      match rest.list with
      | [] => .ok c
      | t :: _ => .error (.malformed (.unexpected t.text))

/-- The condition that a text spells, checked against a catalog. -/
def read (role : Role) (catalog : Catalog) (text : String) : Except ConditionError Condition :=
  let read := do
    let tokens ← (Token.tokenize text.toList).mapError ConditionProblem.malformed
    ofTokens ⟨role, catalog⟩ tokens
  read.mapError fun problem => ⟨text, problem⟩

/-- An empty text sets no condition. -/
theorem read_empty (role : Role) (catalog : Catalog) :
    read role catalog "" = .ok (.const true) := by
  rw [read, String.toList_empty, Token.tokenize]
  rfl

end Condition

open Time (Timestamp)

/-- The least and the greatest time between two events, in milliseconds. -/
structure Window where
  min : Nat
  max : Nat
deriving Repr, DecidableEq

namespace Window

/-- The seconds in a unit: second, minute, hour or day. -/
def unit? : List Char → Option Float
  | ['s'] => some 1.0
  | ['m'] => some 60.0
  | ['h'] => some 3600.0
  | ['d'] => some 86400.0
  | _ => none

/-- A number of units in milliseconds. It has to be finite and not negative. -/
def milliseconds? (unit : Float) (cs : List Char) : Option Nat :=
  ((Decimal.read? cs).filter fun x => Decimal.isFinite x && 0.0 ≤ x).map fun x =>
    (Decimal.roundToInt (x * unit * 1000.0)).toNat

/-- The two ends and the unit of a written window. The unit may be the last character of the second
end. -/
def parts? (cs : List Char) : Option (List Char × List Char × List Char) :=
  match (Text.fields ',' cs).map Text.trim with
  | [min, max, unit] => some (min, max, unit)
  | [min, maxUnit] =>
    match maxUnit.getLast? with
    | some c => some (min, maxUnit.dropLast, [c])
    | none => none
  | _ => none

/-- The window that a text without blanks around it spells. -/
def ofText? (cs : List Char) : Option Window := do
  let (min, max, unit) ← parts? cs
  let unit ← unit? unit
  let min ← milliseconds? unit min
  let max ← milliseconds? unit max
  if max < min then none else some ⟨min, max⟩

/-- The window that a time condition spells; a blank one sets no bounds. -/
def read (text : String) : Except ConditionError (Option Window) :=
  let cs := Text.trim text.toList
  if cs.isEmpty then .ok none
  else
    match ofText? cs with
    | some w => .ok (some w)
    | none => .error ⟨.ofList cs, .notATimeWindow⟩

/-- Whether the time between two events lies in the window. -/
def holds (w : Window) (s t : Timestamp) : Bool :=
  let distance := s.distance t
  w.min * 1000000 ≤ distance && distance ≤ w.max * 1000000

end Window

end Declare
