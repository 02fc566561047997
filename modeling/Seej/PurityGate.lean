import Mathlib.Data.List.Forall2

/-!
# Purity gate

The scanner of the purity gate: it blanks the comments and the string literals of
a source text, so that the rules see code only.  A text is the list of its
characters and a position is an index; a loop that moves a cursor takes what the
text still holds from the cursor on.
-/

namespace Seej

namespace PurityGate

/-- `source.startswith(pattern, start)`. -/
def startsWith (source pattern : List Char) (start : Nat) : Bool :=
  pattern.isPrefixOf (source.drop start)

def findLoop (pattern : List Char) : List Char -> Nat -> Option Nat
  | [], cursor => if pattern = [] then some cursor else none
  | c :: rest, cursor =>
      if pattern.isPrefixOf (c :: rest) then some cursor
      else findLoop pattern rest (cursor + 1)

/-- `source.find(pattern, start)`, with `none` for -1. -/
def find (source pattern : List Char) (start : Nat) : Option Nat :=
  findLoop pattern (source.drop start) start

def isLineBreak (c : Char) : Bool :=
  c = '\r' ∨ c = '\n'

def blank (c : Char) : Char :=
  if isLineBreak c then c else ' '

def maskPreserveNewlines (chars : List Char) (start stop : Nat) : List Char :=
  chars.take start ++ ((chars.take stop).drop start).map blank ++ chars.drop stop

def endMarker (hashes : Nat) : List Char :=
  '"' :: List.replicate hashes '#'

/-- `raw_string_end` behind the `r` or `br`. -/
def rawBodyEnd (source : List Char) (cursor : Nat) : Option Nat :=
  let hashes := ((source.drop cursor).takeWhile (fun c => decide (c = '#'))).length
  let quoteIndex := cursor + hashes
  if source[quoteIndex]? = some '"' then
    match find source (endMarker hashes) (quoteIndex + 1) with
    | none => some source.length
    | some endIndex => some (endIndex + (endMarker hashes).length)
  else none

def rawStringEnd (source : List Char) (start : Nat) : Option Nat :=
  if startsWith source ['b', 'r'] start then rawBodyEnd source (start + 2)
  else if startsWith source ['r'] start then rawBodyEnd source (start + 1)
  else none

/-- A backslash hides the character behind it; at the end of the text the cursor
stops there. -/
def quotedLoop : List Char -> Nat -> Nat
  | [], cursor => cursor
  | c :: rest, cursor =>
      if c = '\\' then
        match rest with
        | [] => cursor + 1
        | _ :: rest => quotedLoop rest (cursor + 2)
      else if c = '"' then cursor + 1
      else quotedLoop rest (cursor + 1)

def quotedStringEnd (source : List Char) (start : Nat) : Nat :=
  quotedLoop (source.drop (start + 1)) (start + 1)

def blockLoop : List Char -> Nat -> Nat -> Nat
  | _, 0, cursor => cursor
  | [], _ + 1, cursor => cursor
  | '/' :: '*' :: rest, depth + 1, cursor => blockLoop rest (depth + 2) (cursor + 2)
  | '*' :: '/' :: rest, depth + 1, cursor => blockLoop rest depth (cursor + 2)
  | _ :: rest, depth + 1, cursor => blockLoop rest (depth + 1) (cursor + 1)

def blockCommentEnd (source : List Char) (start : Nat) : Nat :=
  blockLoop (source.drop (start + 2)) 1 (start + 2)

/-- Where the stretch ends that is masked from the cursor on; `none` where the
cursor just moves on by one. -/
def maskedEnd (source : List Char) (cursor : Nat) : Option Nat :=
  match rawStringEnd source cursor with
  | some rawEnd => some rawEnd
  | none =>
      if startsWith source ['/', '/'] cursor then
        some ((find source ['\n'] cursor).getD source.length)
      else if startsWith source ['/', '*'] cursor then
        some (blockCommentEnd source cursor)
      else if source[cursor]? = some '"' then
        some (quotedStringEnd source cursor)
      else if startsWith source ['b', '"'] cursor then
        some (quotedStringEnd source (cursor + 1))
      else none

/-- The `while` loop, for at most as many turns as the first argument says. -/
def maskLoop (source : List Char) : Nat -> List Char -> Nat -> List Char
  | 0, chars, _ => chars
  | fuel + 1, chars, cursor =>
      if cursor < source.length then
        match maskedEnd source cursor with
        | some stop => maskLoop source fuel (maskPreserveNewlines chars cursor stop) stop
        | none => maskLoop source fuel chars (cursor + 1)
      else chars

/-- Every turn moves the cursor on, so the loop makes no more turns than the text
has characters. -/
def maskCommentsAndLiterals (source : List Char) : List Char :=
  maskLoop source source.length source 0

end PurityGate

end Seej
