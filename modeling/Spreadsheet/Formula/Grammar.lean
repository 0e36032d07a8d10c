import Spreadsheet.Formula.Token

/-! Reading expressions from tokens. Binary operators come in four levels and associate to the left, the power
operator too; signs bind tighter than any of them, and a plus sign leaves nothing behind. -/
namespace Spreadsheet.Formula

/-- Reads an expression from the front of a token list and gives what follows it. -/
abbrev Reader := List Token → Except FormulaError (Expr × List Token)

namespace Grammar

/-- Operands joined by operators of one level, taken from the left. -/
def chain (level : Nat) (operand : Reader) : Nat → Expr → Reader
  | fuel + 1, left, .op o :: ts =>
    if o.looseness = level then do
      let (right, rest) ← operand ts
      chain level operand fuel (.binary o left right) rest
    else .ok (left, .op o :: ts)
  | _, left, ts => .ok (left, ts)

/-- The arguments of a call that has some, up to its closing parenthesis. -/
def arguments (expression : Reader) : Nat → List Token → Except FormulaError (List Expr × List Token)
  | 0, _ => .error .missingCallParenthesis
  | fuel + 1, ts => do
    let (arg, rest) ← expression ts
    match rest with
    | .closeParen :: rest => return ([arg], rest)
    | .comma :: rest =>
      let (args, rest) ← arguments expression fuel rest
      return (arg :: args, rest)
    | [] => throw .missingCallParenthesis
    | _ => throw .unclosedCall

def primary (total : Nat) (expression : Reader) : Reader
  | [] => .error .unexpectedEnd
  | .number x :: rest => .ok (.number x, rest)
  | .text s :: rest => .ok (.text s, rest)
  | .ref p :: .colon :: .ref q :: rest => .ok (.range (Range.between p q), rest)
  | .ref p :: rest => .ok (.ref p, rest)
  | .name n :: .openParen :: .closeParen :: rest => .ok (.call n [], rest)
  | .name n :: .openParen :: ts => do
    let (args, rest) ← arguments expression (ts.length + 1) ts
    return (.call n args, rest)
  | .name n :: _ => .error (.unknownName n)
  | .openParen :: ts => do
    let (e, rest) ← expression ts
    match rest with
    | .closeParen :: rest => return (e, rest)
    | [] => throw .missingParenthesis
    | _ => throw .unclosedParenthesis
  | ts => .error (.unexpectedToken (total - ts.length))

def unary (total : Nat) (expression : Reader) : Reader
  | .op .sub :: ts => do
    let (e, rest) ← unary total expression ts
    return (.neg e, rest)
  | .op .add :: ts => unary total expression ts
  | ts => primary total expression ts

def binary (total : Nat) (expression : Reader) : Nat → Reader
  | 0 => unary total expression
  | level + 1 => fun ts => do
    let (left, rest) ← binary total expression level ts
    chain (level + 1) (binary total expression level) rest.length left rest

/-- Expressions whose parentheses are nested at most to the given depth. -/
def expression (total : Nat) : Nat → Reader
  | 0 => fun _ => .error .unexpectedEnd
  | depth + 1 => binary total (expression total depth) 4

end Grammar

namespace Expr

/-- The expression that all tokens together form. Parentheses cannot nest deeper than there are tokens. -/
def ofTokens (ts : List Token) : Except FormulaError Expr := do
  if ts.isEmpty then throw .empty
  let (e, rest) ← Grammar.expression ts.length (ts.length + 1) ts
  if rest.isEmpty then return e else throw (.unexpectedToken (ts.length - rest.length))

/-- Reads a formula; blanks at the ends do not count, and it starts with an equals sign. -/
def parse (formula : String) : Except FormulaError Expr :=
  match Text.trimChars formula.toList with
  | '=' :: cs => Token.scan cs >>= ofTokens
  | _ => .error .missingEquals

end Expr

end Spreadsheet.Formula
