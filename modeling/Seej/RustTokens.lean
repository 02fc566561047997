import Mathlib.Data.List.Basic

/-!
# Tokens of a Rust source text

The lexical grammar that a source text is read with: the tokens, the characters
each consists of, and which character may follow a token so that it ends there.
The rules are those of the 2021 edition, where a quote or a hash right behind an
identifier starts a prefixed literal.
-/

namespace Seej

namespace RustTokens

def isWhitespace (c : Char) : Bool :=
  c ∈ ['\t', '\n', '\x0b', '\x0c', '\r', ' ', '\u0085', '\u200e', '\u200f', '\u2028', '\u2029']

def isIdentifierChar (c : Char) : Bool :=
  c.isAlphanum ∨ c = '_' ∨ (127 < c.toNat ∧ isWhitespace c = false)

def isPunctuation (c : Char) : Bool :=
  c ∈ "!#$%&()*+,-./:;<=>?@[]^\x7b|\x7d~".toList

def isHexDigit (c : Char) : Bool :=
  c.isDigit ∨ ('a' ≤ c ∧ c ≤ 'f') ∨ ('A' ≤ c ∧ c ≤ 'F')

inductive StringItem where
  | plain (c : Char)
  /-- A backslash and the character behind it. -/
  | escape (c : Char)
deriving DecidableEq

def StringItem.text : StringItem -> List Char
  | .plain c => [c]
  | .escape c => ['\\', c]

def StringItem.Valid : StringItem -> Prop
  | .plain c => c ≠ '"' ∧ c ≠ '\\'
  | .escape _ => True

inductive CharItem where
  | plain (c : Char)
  | simple (c : Char)
  | hex (high low : Char)
  | unicode (digits : List Char)
deriving DecidableEq

def CharItem.text : CharItem -> List Char
  | .plain c => [c]
  | .simple c => ['\\', c]
  | .hex high low => ['\\', 'x', high, low]
  | .unicode digits => ['\\', 'u', '\x7b'] ++ digits ++ ['\x7d']

def CharItem.Valid : CharItem -> Prop
  | .plain c => c ∉ ['\'', '\\', '\n', '\r', '\t']
  | .simple c => c ∈ ['n', 'r', 't', '\\', '0', '\'', '"']
  | .hex high low => isHexDigit high = true ∧ isHexDigit low = true
  | .unicode digits => forall c : Char, c ∈ digits -> isHexDigit c = true ∨ c = '_'

inductive Token where
  | whitespace (c : Char)
  /-- An identifier or a keyword; `raw` is the prefix `r#`. -/
  | identifier (raw : Bool) (name : List Char)
  | punctuation (c : Char)
  | lifetime (name : List Char)
  | lineComment (body : List Char)
  /-- A comment with everything behind its opening, the closing included. -/
  | blockComment (body : List Char)
  | string (byte : Bool) (items : List StringItem)
  | rawString (byte : Bool) (hashes : Nat) (body : List Char)
  | character (byte : Bool) (item : CharItem)
deriving DecidableEq

def bytePrefix (byte : Bool) : List Char :=
  if byte then ['b'] else []

def rawClose (hashes : Nat) : List Char :=
  '"' :: List.replicate hashes '#'

/-- A text that closes as many block comments as the number says, and ends there. -/
inductive ClosesComments : Nat -> List Char -> Prop where
  | done : ClosesComments 0 []
  | opening {depth : Nat} {rest : List Char} (h : ClosesComments (depth + 2) rest) :
      ClosesComments (depth + 1) ('/' :: '*' :: rest)
  | closing {depth : Nat} {rest : List Char} (h : ClosesComments depth rest) :
      ClosesComments (depth + 1) ('*' :: '/' :: rest)
  | other {depth : Nat} {c : Char} {rest : List Char}
      (hopening : ¬ (c = '/' ∧ rest.head? = some '*'))
      (hclosing : ¬ (c = '*' ∧ rest.head? = some '/'))
      (h : ClosesComments (depth + 1) rest) : ClosesComments (depth + 1) (c :: rest)

namespace Token

def text : Token -> List Char
  | .whitespace c => [c]
  | .identifier raw name => (if raw then ['r', '#'] else []) ++ name
  | .punctuation c => [c]
  | .lifetime name => '\'' :: name
  | .lineComment body => ['/', '/'] ++ body
  | .blockComment body => ['/', '*'] ++ body
  | .string byte items => bytePrefix byte ++ ('"' :: items.flatMap StringItem.text) ++ ['"']
  | .rawString byte hashes body =>
      bytePrefix byte ++ ('r' :: List.replicate hashes '#') ++ ('"' :: body) ++ rawClose hashes
  | .character byte item => bytePrefix byte ++ ('\'' :: item.text) ++ ['\'']

def Valid : Token -> Prop
  | .whitespace c => isWhitespace c = true
  | .identifier _ name => name ≠ [] ∧ forall c : Char, c ∈ name -> isIdentifierChar c = true
  | .punctuation c => isPunctuation c = true
  | .lifetime name => name ≠ [] ∧ forall c : Char, c ∈ name -> isIdentifierChar c = true
  | .lineComment body => '\n' ∉ body
  | .blockComment body => ClosesComments 1 body
  | .string _ items => forall item : StringItem, item ∈ items -> item.Valid
  | .rawString _ hashes body => ¬ rawClose hashes <:+: body
  | .character _ item => item.Valid

/-- The token ends where `next` is the character behind it. -/
def EndsBefore : Token -> Option Char -> Prop
  | .identifier _ _, next =>
      forall c : Char, next = some c -> isIdentifierChar c = false ∧ c ∉ ['"', '\'', '#']
  | .lifetime _, next =>
      forall c : Char, next = some c -> isIdentifierChar c = false ∧ c ∉ ['\'', '#']
  | .punctuation c, next => c = '/' -> next ≠ some '/' ∧ next ≠ some '*'
  | .lineComment _, next => forall c : Char, next = some c -> c = '\n'
  | _, _ => True

end Token

def sourceText (tokens : List Token) : List Char :=
  tokens.flatMap Token.text

inductive WellFormed : List Token -> Prop where
  | nil : WellFormed []
  | cons {token : Token} {rest : List Token} (hvalid : token.Valid)
      (hends : token.EndsBefore (sourceText rest).head?) (hrest : WellFormed rest) :
      WellFormed (token :: rest)

@[simp] theorem sourceText_nil : sourceText [] = [] := rfl

@[simp] theorem sourceText_cons (token : Token) (rest : List Token) :
    sourceText (token :: rest) = token.text ++ sourceText rest := rfl

@[simp] theorem sourceText_append (left right : List Token) :
    sourceText (left ++ right) = sourceText left ++ sourceText right :=
  List.flatMap_append

end RustTokens

end Seej
