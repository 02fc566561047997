import Seej.PurityTokens

/-!
# What the purity gate masks

On a sequence of tokens the scanner masks the comments and the string literals and
nothing else, as long as it stays in step with the tokens.  Two kinds of tokens
put it out of step: a character literal for a quote, and a lifetime that reads as
the prefix of the string behind it.
-/

namespace Seej

namespace PurityGate

open RustTokens

/-!
## What is promised
-/

inductive Region where
  | code
  | masked
  | literal
deriving DecidableEq

/-- The region that the characters of a token belong to. -/
def region : Token -> Region
  | .lineComment _ | .blockComment _ | .string _ _ | .rawString _ _ _ => .masked
  | .character _ _ => .literal
  | _ => .code

/-- What may stand for a character of a region: the same character for code, a blank for
anything in a comment or a string that is no line break, and for a character literal
anything that keeps the line breaks. -/
def Region.Allows : Region -> Char -> Char -> Prop
  | .code, c, d => d = c
  | .masked, c, d => if isLineBreak c then d = c else d = ' '
  | .literal, c, d => isLineBreak c = true ∨ isLineBreak d = true -> d = c

instance (r : Region) (c d : Char) : Decidable (r.Allows c d) :=
  match r with
  | .code => inferInstanceAs (Decidable (d = c))
  | .masked => inferInstanceAs (Decidable (if isLineBreak c then d = c else d = ' '))
  | .literal => inferInstanceAs (Decidable (isLineBreak c = true ∨ isLineBreak d = true -> d = c))

def regions (tokens : List Token) : List (Region × Char) :=
  tokens.flatMap (fun token => token.text.map (fun c => (region token, c)))

/-- The text has the same length and the same line breaks, its code is the code of the
tokens, and nothing but blanks is left of comments and strings. -/
def MasksOnly (tokens : List Token) (output : List Char) : Prop :=
  List.Forall₂ (fun source d => source.1.Allows source.2 d) (regions tokens) output

instance (tokens : List Token) (output : List Char) : Decidable (MasksOnly tokens output) := by
  unfold MasksOnly
  infer_instance

/-- The tokens keep the scanner in step. -/
def Safe : List Token -> Prop
  | [] => True
  | token :: rest => Harmless token (sourceText rest).head? ∧ Safe rest

/-!
## In step
-/

def maskedText (token : Token) : List Char :=
  if region token = .masked then token.text.map blank else token.text

theorem length_maskedText (token : Token) : (maskedText token).length = token.text.length := by
  unfold maskedText
  split
  · exact List.length_map blank
  · rfl

/-- From the beginning of `text` with `rest` behind it, the scanner gets to its end and
leaves `output` for it. -/
def Reads (text output rest : List Char) : Prop :=
  forall before done : List Char, done.length = before.length ->
    maskFrom (before ++ (text ++ rest)) (done ++ (text ++ rest)) before.length =
      maskFrom ((before ++ text) ++ rest) ((done ++ output) ++ rest) (before ++ text).length

theorem Reads.nil (rest : List Char) : Reads [] [] rest := by
  intro before done _
  simp only [List.append_nil, List.nil_append]

theorem Reads.append {left right output output' rest : List Char}
    (hleft : Reads left output (right ++ rest)) (hright : Reads right output' rest)
    (hlength : output.length = left.length) :
    Reads (left ++ right) (output ++ output') rest := by
  intro before done hdone
  have hboth : (done ++ output).length = (before ++ left).length := by
    rw [List.length_append, List.length_append, hdone, hlength]
  have h := hleft before done hdone
  rw [hright (before ++ left) (done ++ output) hboth] at h
  simp only [List.append_assoc] at h ⊢
  exact h

theorem reads_code {text rest : List Char} (h : CodeText text rest) : Reads text text rest := by
  induction text with
  | nil => exact Reads.nil rest
  | cons c text ih =>
      cases h with
      | cons hcode htail =>
          have hone : Reads [c] [c] (text ++ rest) := by
            intro before done hdone
            have hlt : before.length < (before ++ ([c] ++ (text ++ rest))).length := by simp
            rw [maskFrom_code hlt (maskedEnd_code hcode)]
            simp only [List.append_assoc, List.length_append, List.length_cons,
              List.length_nil]
          exact hone.append (ih htail) rfl

theorem reads_masked {text rest : List Char} (hne : text ≠ [])
    (hend : forall before : List Char, maskedEnd (before ++ (text ++ rest)) before.length =
      some (before.length + text.length)) : Reads text (text.map blank) rest := by
  intro before done hdone
  have hpos : 0 < text.length := List.length_pos_iff.mpr hne
  have hlt : before.length < (before ++ (text ++ rest)).length := by
    simp only [List.length_append]
    omega
  rw [maskFrom_masked hlt (hend before), ← hdone, maskPreserveNewlines_append, List.append_assoc,
    List.append_assoc, List.length_append, hdone]

/-- The scanner gets over every harmless token. -/
theorem reads_token {token : Token} {rest : List Char} (hvalid : token.Valid)
    (hends : token.EndsBefore rest.head?) (hharmless : Harmless token rest.head?) :
    Reads token.text (maskedText token) rest := by
  cases token with
  | whitespace c => exact reads_code (codeText_whitespace hvalid rest)
  | identifier raw name => exact reads_code (codeText_identifier hvalid hends)
  | punctuation c => exact reads_code (codeText_punctuation hvalid hends)
  | lifetime name => exact reads_code (codeText_lifetime hvalid hends hharmless)
  | character byte item => exact reads_code (codeText_character hvalid hharmless rest)
  | lineComment body =>
      exact reads_masked (by simp [Token.text])
        (fun before => maskedEnd_lineComment hvalid hends before)
  | blockComment body =>
      exact reads_masked (by simp [Token.text])
        (fun before => maskedEnd_blockComment hvalid before rest)
  | string byte items =>
      exact reads_masked (by simp [Token.text])
        (fun before => maskedEnd_string hvalid before rest)
  | rawString byte hashes body =>
      exact reads_masked (by simp [Token.text])
        (fun before => maskedEnd_rawString hvalid before rest)

/-- Tokens that end where the next one begins and keep the scanner in step, with `rest`
behind them. -/
def InStep : List Token -> List Char -> Prop
  | [], _ => True
  | token :: tokens, rest =>
      token.Valid ∧ token.EndsBefore (sourceText tokens ++ rest).head? ∧
        Harmless token (sourceText tokens ++ rest).head? ∧ InStep tokens rest

theorem reads_tokens {tokens : List Token} {rest : List Char} (h : InStep tokens rest) :
    Reads (sourceText tokens) (tokens.flatMap maskedText) rest := by
  induction tokens with
  | nil => exact Reads.nil rest
  | cons token tokens ih =>
      rcases h with ⟨hvalid, hends, hharmless, htail⟩
      exact (reads_token hvalid hends hharmless).append (ih htail) (length_maskedText token)

theorem inStep_of_safe {tokens : List Token} (h : WellFormed tokens) (hsafe : Safe tokens) :
    InStep tokens [] := by
  induction h with
  | nil => trivial
  | @cons token rest hvalid hends _ ih =>
      rcases hsafe with ⟨hharmless, htail⟩
      unfold InStep
      rw [List.append_nil]
      exact ⟨hvalid, hends, hharmless, ih htail⟩

theorem mask_of_inStep {tokens : List Token} (h : InStep tokens []) :
    maskCommentsAndLiterals (sourceText tokens) = tokens.flatMap maskedText := by
  have hreads := reads_tokens h [] [] rfl
  simp only [List.append_nil, List.nil_append, List.length_nil] at hreads
  rw [maskCommentsAndLiterals_eq, hreads, maskFrom_end (Nat.le_refl _)]

theorem allows_maskedText (token : Token) :
    List.Forall₂ (fun source d => source.1.Allows source.2 d)
      (token.text.map (fun c => (region token, c))) (maskedText token) := by
  rw [List.forall₂_map_left_iff]
  unfold maskedText
  by_cases hmasked : region token = .masked
  · rw [if_pos hmasked, List.forall₂_map_right_iff, List.forall₂_same]
    intro c _
    rw [hmasked]
    show if isLineBreak c then blank c = c else blank c = ' '
    unfold blank
    split
    · rfl
    · rfl
  · rw [if_neg hmasked, List.forall₂_same]
    intro c _
    cases hregion : region token with
    | code => rfl
    | masked => exact absurd hregion hmasked
    | literal => exact fun _ => rfl

theorem masksOnly_maskedText (tokens : List Token) :
    MasksOnly tokens (tokens.flatMap maskedText) := by
  unfold MasksOnly regions
  induction tokens with
  | nil => exact List.Forall₂.nil
  | cons token tokens ih =>
      rw [List.flatMap_cons, List.flatMap_cons]
      exact List.rel_append (allows_maskedText token) ih

theorem masksOnly_of_safe {tokens : List Token} (h : WellFormed tokens) (hsafe : Safe tokens) :
    MasksOnly tokens (maskCommentsAndLiterals (sourceText tokens)) := by
  rw [mask_of_inStep (inStep_of_safe h hsafe)]
  exact masksOnly_maskedText tokens

end PurityGate

end Seej
