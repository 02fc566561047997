import Seej.PurityScan
import Seej.RustTokens

/-!
# The purity gate on tokens

What the scanner does at each token.  It masks a comment or a string literal in
one stretch and moves through any other token character by character, as long as
no character looks like the start of a literal.
-/

namespace Seej

namespace PurityGate

open RustTokens

/-!
## Looking ahead
-/

section Ahead

variable (before : List Char)

theorem startsWith_append (text pattern : List Char) :
    startsWith (before ++ text) pattern before.length = pattern.isPrefixOf text := by
  unfold startsWith
  rw [List.drop_left]

theorem getElem?_length_append (text : List Char) :
    (before ++ text)[before.length]? = text.head? := by
  rw [List.getElem?_append_right (Nat.le_refl _), Nat.sub_self, List.head?_eq_getElem?]

theorem find_append (text pattern : List Char) :
    find (before ++ text) pattern before.length = findLoop pattern text before.length := by
  unfold find
  rw [List.drop_left]

def OpensRaw (text : List Char) : Prop :=
  (text.dropWhile (fun c => decide (c = '#'))).head? = some '"'

theorem opensRaw_cons {c : Char} {rest : List Char} (h : c ≠ '#') :
    OpensRaw (c :: rest) <-> c = '"' := by
  unfold OpensRaw
  rw [List.dropWhile_cons_of_neg (by simpa using h), List.head?_cons, Option.some_inj]

theorem not_opensRaw_nil : ¬ OpensRaw [] := by
  unfold OpensRaw
  simp

theorem rawBodyEnd_none {text : List Char} (h : ¬ OpensRaw text) :
    rawBodyEnd (before ++ text) before.length = none := by
  have hshift : before ++ text =
      (before ++ text.takeWhile (fun c => decide (c = '#'))) ++
        text.dropWhile (fun c => decide (c = '#')) := by
    rw [List.append_assoc, List.takeWhile_append_dropWhile]
  have hquote : ¬ (before ++ text)[before.length +
      (text.takeWhile (fun c => decide (c = '#'))).length]? = some '"' := by
    rw [← List.length_append, hshift, getElem?_length_append]
    exact h
  unfold rawBodyEnd
  simp only [List.drop_left]
  rw [if_neg hquote]

end Ahead

/-!
## Code
-/

/-- Nothing to mask begins at `c`, with `rest` behind it. -/
structure CodeAt (c : Char) (rest : List Char) : Prop where
  quote : c ≠ '"'
  slash : c = '/' -> rest.head? ≠ some '/' ∧ rest.head? ≠ some '*'
  raw : c = 'r' -> ¬ OpensRaw rest
  byte : c = 'b' -> rest.head? ≠ some '"'
  rawByte : c = 'b' -> rest.head? = some 'r' -> ¬ OpensRaw rest.tail

theorem isPrefixOf_pair {a b c : Char} {rest : List Char} :
    [a, b].isPrefixOf (c :: rest) = true <-> a = c ∧ rest.head? = some b := by
  rw [List.isPrefixOf_iff_prefix, List.cons_prefix_cons]
  cases rest with
  | nil => simp
  | cons d rest =>
      rw [List.cons_prefix_cons, List.head?_cons, Option.some_inj, and_iff_left List.nil_prefix]
      exact and_congr_right (fun _ => eq_comm)

theorem not_isPrefixOf_pair {a b c : Char} (h : a ≠ c) (rest : List Char) :
    ¬ [a, b].isPrefixOf (c :: rest) = true := by
  rw [isPrefixOf_pair]
  exact fun hpair => h hpair.left

theorem rawStringEnd_byte (before tail : List Char) :
    rawStringEnd (before ++ 'b' :: 'r' :: tail) before.length =
      rawBodyEnd ((before ++ ['b', 'r']) ++ tail) (before ++ ['b', 'r']).length := by
  have hletter : ['b', 'r'].isPrefixOf ('b' :: 'r' :: tail) = true := rfl
  have hshift : before ++ 'b' :: 'r' :: tail = (before ++ ['b', 'r']) ++ tail := by simp
  unfold rawStringEnd
  rw [startsWith_append, if_pos hletter, hshift, List.length_append]
  rfl

theorem rawStringEnd_plain (before tail : List Char) :
    rawStringEnd (before ++ 'r' :: tail) before.length =
      rawBodyEnd ((before ++ ['r']) ++ tail) (before ++ ['r']).length := by
  have hno : ¬ ['b', 'r'].isPrefixOf ('r' :: tail) = true := not_isPrefixOf_pair (by decide) tail
  have hone : ['r'].isPrefixOf ('r' :: tail) = true := rfl
  have hshift : before ++ 'r' :: tail = (before ++ ['r']) ++ tail := by simp
  unfold rawStringEnd
  rw [startsWith_append, startsWith_append, if_neg hno, if_pos hone, hshift, List.length_append]
  rfl

theorem rawStringEnd_none {before : List Char} {c : Char} {rest : List Char}
    (hraw : c = 'r' -> ¬ OpensRaw rest)
    (hbyte : c = 'b' -> rest.head? = some 'r' -> ¬ OpensRaw rest.tail) :
    rawStringEnd (before ++ c :: rest) before.length = none := by
  by_cases hpair : c = 'b' ∧ rest.head? = some 'r'
  · rcases hpair with ⟨hc, hhead⟩
    have hnot := hbyte hc hhead
    cases rest with
    | nil => cases hhead
    | cons d tail =>
        rw [List.head?_cons, Option.some_inj] at hhead
        rw [hc, hhead, rawStringEnd_byte]
        exact rawBodyEnd_none (before ++ ['b', 'r']) hnot
  · by_cases hr : c = 'r'
    · have hnot := hraw hr
      rw [hr, rawStringEnd_plain]
      exact rawBodyEnd_none (before ++ ['r']) hnot
    · have hno : ¬ ['b', 'r'].isPrefixOf (c :: rest) = true := by
        rw [isPrefixOf_pair]
        exact fun h => hpair ⟨h.left.symm, h.right⟩
      have hone : ¬ ['r'].isPrefixOf (c :: rest) = true := by
        rw [List.isPrefixOf_iff_prefix, List.cons_prefix_cons]
        exact fun h => hr h.left.symm
      unfold rawStringEnd
      rw [startsWith_append, startsWith_append, if_neg hno, if_neg hone]

theorem maskedEnd_code {before : List Char} {c : Char} {rest : List Char} (h : CodeAt c rest) :
    maskedEnd (before ++ c :: rest) before.length = none := by
  have hslashes : ¬ ['/', '/'].isPrefixOf (c :: rest) = true := by
    intro hpair
    rcases isPrefixOf_pair.mp hpair with ⟨hc, hhead⟩
    exact (h.slash hc.symm).left hhead
  have hstar : ¬ ['/', '*'].isPrefixOf (c :: rest) = true := by
    intro hpair
    rcases isPrefixOf_pair.mp hpair with ⟨hc, hhead⟩
    exact (h.slash hc.symm).right hhead
  have hbyte : ¬ ['b', '"'].isPrefixOf (c :: rest) = true := by
    intro hpair
    rcases isPrefixOf_pair.mp hpair with ⟨hc, hhead⟩
    exact h.byte hc.symm hhead
  have hquote : ¬ some c = some '"' := fun heq => h.quote (Option.some_inj.mp heq)
  unfold maskedEnd
  rw [rawStringEnd_none h.raw h.rawByte, startsWith_append, startsWith_append, startsWith_append,
    getElem?_length_append, List.head?_cons]
  simp only
  rw [if_neg hslashes, if_neg hstar, if_neg hquote, if_neg hbyte]

/-- Nothing to mask begins within `text`, with `rest` behind it. -/
inductive CodeText : List Char -> List Char -> Prop where
  | nil {rest : List Char} : CodeText [] rest
  | cons {c : Char} {text rest : List Char} (hcode : CodeAt c (text ++ rest))
      (h : CodeText text rest) : CodeText (c :: text) rest

theorem CodeText.append {left right rest : List Char} (hleft : CodeText left (right ++ rest))
    (hright : CodeText right rest) : CodeText (left ++ right) rest := by
  induction left with
  | nil => exact hright
  | cons c left ih =>
      cases hleft with
      | cons hcode htail =>
          rw [← List.append_assoc] at hcode
          exact CodeText.cons hcode (ih htail)

/-!
## Characters that begin nothing
-/

theorem not_mem_of_class {p : Char -> Bool} {c : Char} {chars : List Char} (h : p c = true)
    (hrejects : chars.all (fun d => !p d) = true) : c ∉ chars := by
  intro hc
  have hc' := List.all_eq_true.mp hrejects c hc
  rw [h] at hc'
  cases hc'

/-- A character that begins no literal and no comment. -/
def Inert (c : Char) : Prop :=
  c ∉ ['"', '/', 'r', 'b']

instance (c : Char) : Decidable (Inert c) := by
  unfold Inert
  infer_instance

theorem codeAt_of_inert {c : Char} (h : Inert c) (rest : List Char) : CodeAt c rest := by
  unfold Inert at h
  simp only [List.mem_cons, List.not_mem_nil, or_false, not_or] at h
  rcases h with ⟨hquote, hslash, hraw, hbyte⟩
  exact ⟨hquote, fun h => absurd h hslash, fun h => absurd h hraw, fun h => absurd h hbyte,
    fun h => absurd h hbyte⟩

/-- A character before which any character but a quote is code. -/
def Plain (c : Char) : Prop :=
  c ∉ ['"', '#', '/', '*', 'r']

instance (c : Char) : Decidable (Plain c) := by
  unfold Plain
  infer_instance

theorem codeAt_before_plain {c d : Char} {rest : List Char} (hc : c ≠ '"') (hd : Plain d) :
    CodeAt c (d :: rest) := by
  unfold Plain at hd
  simp only [List.mem_cons, List.not_mem_nil, or_false, not_or] at hd
  rcases hd with ⟨hquote, hhash, hslash, hstar, hr⟩
  constructor
  · exact hc
  · intro _
    simpa using ⟨hslash, hstar⟩
  · intro _
    rw [opensRaw_cons hhash]
    exact hquote
  · intro _
    simpa using hquote
  · intro _ h
    exact absurd (Option.some_inj.mp h) hr

theorem codeText_before_plain {text : List Char} {d : Char} {rest : List Char}
    (htext : forall c : Char, c ∈ text -> Plain c) (hd : Plain d) :
    CodeText text (d :: rest) := by
  induction text with
  | nil => exact CodeText.nil
  | cons c text ih =>
      have hc : c ≠ '"' := by
        have hplain := htext c List.mem_cons_self
        unfold Plain at hplain
        simp only [List.mem_cons, not_or] at hplain
        exact hplain.left
      have htail : forall b : Char, b ∈ text -> Plain b :=
        fun b hb => htext b (List.mem_cons_of_mem c hb)
      refine CodeText.cons ?_ (ih htail)
      cases text with
      | nil => exact codeAt_before_plain hc hd
      | cons b text => exact codeAt_before_plain hc (htail b List.mem_cons_self)

/-!
## Names
-/

theorem isIdentifierChar_ne {c : Char} (h : isIdentifierChar c = true) :
    c ∉ ['"', '#', '/', '*'] :=
  not_mem_of_class h rfl

/-- A name may end in one of the letters that begin a literal if no quote follows. -/
def EndsLikePrefix (name : List Char) : Prop :=
  name.getLast? = some 'r' ∨ name.getLast? = some 'b'

theorem not_opensRaw_of_head {rest : List Char} (hhash : rest.head? ≠ some '#')
    (hquote : rest.head? ≠ some '"') : ¬ OpensRaw rest := by
  cases rest with
  | nil => exact not_opensRaw_nil
  | cons c rest =>
      rw [List.head?_cons, ne_eq, Option.some_inj] at hhash hquote
      rw [opensRaw_cons hhash]
      exact hquote

theorem codeText_name {name rest : List Char}
    (hname : forall c : Char, c ∈ name -> isIdentifierChar c = true)
    (hrest : forall c : Char, rest.head? = some c -> isIdentifierChar c = false)
    (hhash : rest.head? ≠ some '#')
    (hletter : EndsLikePrefix name -> rest.head? ≠ some '"') : CodeText name rest := by
  induction name with
  | nil => exact CodeText.nil
  | cons c name ih =>
      have hc := isIdentifierChar_ne (hname c List.mem_cons_self)
      simp only [List.mem_cons, List.not_mem_nil, or_false, not_or] at hc
      have hslash : c ≠ '/' := hc.right.right.left
      cases name with
      | nil =>
          -- the last character: what follows is no part of the name
          refine CodeText.cons ?_ CodeText.nil
          rw [List.nil_append]
          constructor
          · exact hc.left
          · exact fun h => absurd h hslash
          · intro h
            exact not_opensRaw_of_head hhash (hletter (Or.inl (by rw [h]; rfl)))
          · intro h
            exact hletter (Or.inr (by rw [h]; rfl))
          · intro _ h
            have hr : isIdentifierChar 'r' = true := by decide
            rw [hrest 'r' h] at hr
            cases hr
      | cons d name =>
          have htail : forall b : Char, b ∈ d :: name -> isIdentifierChar b = true :=
            fun b hb => hname b (List.mem_cons_of_mem c hb)
          have hd := isIdentifierChar_ne (htail d List.mem_cons_self)
          simp only [List.mem_cons, List.not_mem_nil, or_false, not_or] at hd
          have hlast : EndsLikePrefix (d :: name) -> rest.head? ≠ some '"' := by
            intro h
            apply hletter
            unfold EndsLikePrefix at h ⊢
            rw [List.getLast?_cons_cons]
            exact h
          have hcode := ih htail hlast
          refine CodeText.cons ?_ hcode
          by_cases hr : d = 'r'
          · -- a name that goes on with `r`, which must not begin a raw string
            cases hcode with
            | cons hnext _ =>
                constructor
                · exact hc.left
                · exact fun h => absurd h hslash
                · intro _
                  rw [List.cons_append, opensRaw_cons hd.right.left]
                  exact hd.left
                · intro _
                  simpa using hd.left
                · intro _ _
                  exact hnext.raw hr
          · refine codeAt_before_plain hc.left ?_
            unfold Plain
            simp only [List.mem_cons, List.not_mem_nil, or_false, not_or]
            exact ⟨hd.left, hd.right.left, hd.right.right.left, hd.right.right.right, hr⟩

/-!
## Tokens that are not masked
-/

/-- Neither a character literal for a quote, nor a lifetime that a quote turns into the
beginning of another literal. -/
def Harmless : Token -> Option Char -> Prop
  | .character _ (.plain c), _ => c ≠ '"'
  | .character _ (.simple c), _ => c ≠ '"'
  | .lifetime name, next => EndsLikePrefix name -> next ≠ some '"'
  | _, _ => True

theorem plain_of_isHexDigit {c : Char} (h : isHexDigit c = true) : Plain c :=
  not_mem_of_class h rfl

theorem codeText_charItem {byte : Bool} {item : CharItem} {next : Option Char}
    (hvalid : item.Valid) (hharmless : Harmless (.character byte item) next)
    (rest : List Char) : CodeText item.text ('\'' :: rest) := by
  have hquote : Plain '\'' := by decide
  cases item with
  | plain c => exact CodeText.cons (codeAt_before_plain hharmless hquote) CodeText.nil
  | simple c =>
      refine CodeText.cons ?_ (CodeText.cons (codeAt_before_plain hharmless hquote) CodeText.nil)
      exact codeAt_of_inert (by decide) _
  | hex high low =>
      apply codeText_before_plain _ hquote
      intro c hc
      simp only [CharItem.text, List.mem_cons, List.not_mem_nil, or_false] at hc
      rcases hc with hc | hc | hc | hc
      · rw [hc]
        decide
      · rw [hc]
        decide
      · rw [hc]
        exact plain_of_isHexDigit hvalid.left
      · rw [hc]
        exact plain_of_isHexDigit hvalid.right
  | unicode digits =>
      apply codeText_before_plain _ hquote
      intro c hc
      simp only [CharItem.text, List.mem_append, List.mem_cons, List.not_mem_nil, or_false] at hc
      rcases hc with ((hc | hc | hc) | hc) | hc
      · rw [hc]
        decide
      · rw [hc]
        decide
      · rw [hc]
        decide
      · rcases hvalid c hc with hdigit | hunderscore
        · exact plain_of_isHexDigit hdigit
        · rw [hunderscore]
          decide
      · rw [hc]
        decide

theorem codeText_bytePrefix (byte : Bool) (rest : List Char) :
    CodeText (bytePrefix byte) ('\'' :: rest) := by
  cases byte with
  | false => exact CodeText.nil
  | true => exact CodeText.cons (codeAt_before_plain (by decide) (by decide)) CodeText.nil

theorem codeAt_apostrophe (rest : List Char) : CodeAt '\'' rest :=
  codeAt_of_inert (by decide) rest

theorem codeText_character {byte : Bool} {item : CharItem} {next : Option Char}
    (hvalid : item.Valid) (hharmless : Harmless (.character byte item) next)
    (rest : List Char) : CodeText (Token.character byte item).text rest := by
  have hclose : CodeText ['\''] rest := CodeText.cons (codeAt_apostrophe rest) CodeText.nil
  have hitem : CodeText item.text (['\''] ++ rest) := codeText_charItem hvalid hharmless rest
  have hopen : CodeText ('\'' :: item.text) (['\''] ++ rest) :=
    CodeText.cons (codeAt_apostrophe _) hitem
  have hletter : CodeText (bytePrefix byte) (('\'' :: item.text) ++ (['\''] ++ rest)) :=
    codeText_bytePrefix byte _
  exact (hletter.append hopen).append hclose

theorem codeText_identifier {raw : Bool} {name rest : List Char}
    (hvalid : (Token.identifier raw name).Valid)
    (hends : (Token.identifier raw name).EndsBefore rest.head?) :
    CodeText (Token.identifier raw name).text rest := by
  have hquote : rest.head? ≠ some '"' := by
    intro h
    exact absurd (hends '"' h).right (by decide)
  have hhash : rest.head? ≠ some '#' := by
    intro h
    exact absurd (hends '#' h).right (by decide)
  have hname : CodeText name rest :=
    codeText_name hvalid.right (fun c h => (hends c h).left) hhash (fun _ => hquote)
  cases raw with
  | false => exact hname
  | true =>
      rcases List.exists_cons_of_ne_nil hvalid.left with ⟨first, more, hfirst⟩
      have hne := isIdentifierChar_ne (hvalid.right first (by rw [hfirst]; simp))
      simp only [List.mem_cons, List.not_mem_nil, or_false, not_or] at hne
      have hnot : ¬ OpensRaw ('#' :: (name ++ rest)) := by
        rw [hfirst, List.cons_append]
        unfold OpensRaw
        rw [List.dropWhile_cons_of_pos (by decide)]
        exact (opensRaw_cons hne.right.left).not.mpr hne.left
      refine CodeText.cons ?_ (CodeText.cons ?_ hname)
      · exact ⟨by decide, fun h => absurd h (by decide), fun _ => hnot,
          fun h => absurd h (by decide), fun h => absurd h (by decide)⟩
      · exact codeAt_of_inert (by decide) _

theorem codeText_lifetime {name rest : List Char} (hvalid : (Token.lifetime name).Valid)
    (hends : (Token.lifetime name).EndsBefore rest.head?)
    (hharmless : Harmless (.lifetime name) rest.head?) :
    CodeText (Token.lifetime name).text rest := by
  have hhash : rest.head? ≠ some '#' := by
    intro h
    exact absurd (hends '#' h).right (by decide)
  exact CodeText.cons (codeAt_apostrophe _)
    (codeText_name hvalid.right (fun c h => (hends c h).left) hhash hharmless)

theorem codeText_whitespace {c : Char} (hvalid : isWhitespace c = true) (rest : List Char) :
    CodeText [c] rest := by
  have hinert : Inert c := not_mem_of_class hvalid rfl
  exact CodeText.cons (codeAt_of_inert hinert _) CodeText.nil

theorem codeText_punctuation {c : Char} {rest : List Char} (hvalid : isPunctuation c = true)
    (hends : (Token.punctuation c).EndsBefore rest.head?) : CodeText [c] rest := by
  have hnone : c ∉ ['"', 'r', 'b'] := not_mem_of_class hvalid rfl
  simp only [List.mem_cons, List.not_mem_nil, or_false, not_or] at hnone
  rcases hnone with ⟨hquote, hraw, hbyte⟩
  refine CodeText.cons ?_ CodeText.nil
  exact ⟨hquote, hends, fun h => absurd h hraw, fun h => absurd h hbyte,
    fun h => absurd h hbyte⟩

/-!
## Comments
-/

theorem rawStringEnd_none_of_ne {before : List Char} {c : Char} {rest : List Char}
    (hr : c ≠ 'r') (hb : c ≠ 'b') : rawStringEnd (before ++ c :: rest) before.length = none :=
  rawStringEnd_none (fun h => absurd h hr) (fun h => absurd h hb)

theorem findLoop_newline {text : List Char} (h : '\n' ∉ text) (rest : List Char)
    (cursor : Nat) :
    findLoop ['\n'] (text ++ rest) cursor = findLoop ['\n'] rest (cursor + text.length) := by
  induction text generalizing cursor with
  | nil => rfl
  | cons c text ih =>
      rw [List.mem_cons, not_or] at h
      have hno : ¬ ['\n'].isPrefixOf (c :: (text ++ rest)) = true := by
        rw [List.isPrefixOf_iff_prefix, List.cons_prefix_cons]
        exact fun hpair => h.left hpair.left
      rw [List.cons_append, findLoop, if_neg hno, ih h.right, List.length_cons]
      congr 1
      omega

theorem maskedEnd_lineComment {body rest : List Char} (hbody : '\n' ∉ body)
    (hrest : forall c : Char, rest.head? = some c -> c = '\n') (before : List Char) :
    maskedEnd (before ++ ((Token.lineComment body).text ++ rest)) before.length =
      some (before.length + (Token.lineComment body).text.length) := by
  have hslashes : ['/', '/'].isPrefixOf ('/' :: '/' :: (body ++ rest)) = true := rfl
  have htext : '\n' ∉ (Token.lineComment body).text := by
    simp [Token.text, hbody]
  have hfind : (find (before ++ ((Token.lineComment body).text ++ rest)) ['\n']
      before.length).getD (before ++ ((Token.lineComment body).text ++ rest)).length =
      before.length + (Token.lineComment body).text.length := by
    rw [find_append, findLoop_newline htext]
    cases rest with
    | nil => simp [findLoop]
    | cons c rest =>
        have hc : c = '\n' := hrest c rfl
        rw [hc]
        rfl
  have htwo : (Token.lineComment body).text ++ rest = '/' :: '/' :: (body ++ rest) := rfl
  unfold maskedEnd
  rw [htwo] at hfind ⊢
  rw [rawStringEnd_none_of_ne (by decide) (by decide), startsWith_append]
  simp only
  rw [if_pos hslashes, hfind]

theorem blockLoop_closes {depth : Nat} {text : List Char} (h : ClosesComments depth text)
    (rest : List Char) (cursor : Nat) :
    blockLoop (text ++ rest) depth cursor = cursor + text.length := by
  induction h generalizing cursor with
  | done =>
      cases rest with
      | nil => rfl
      | cons _ _ => rfl
  | @opening depth text _ ih =>
      rw [List.cons_append, List.cons_append, blockLoop, ih]
      simp only [List.length_cons]
      omega
  | @closing depth text _ ih =>
      rw [List.cons_append, List.cons_append, blockLoop, ih]
      simp only [List.length_cons]
      omega
  | @other depth c text hopening hclosing h ih =>
      -- the comment is open, so there is a next character
      cases text with
      | nil => cases h
      | cons d text =>
          rw [List.cons_append, blockLoop.eq_5, ih]
          · simp only [List.length_cons]
            omega
          · intro tail hc htail
            rw [List.cons_append, List.cons.injEq] at htail
            exact hopening ⟨hc, by rw [htail.left, List.head?_cons]⟩
          · intro tail hc htail
            rw [List.cons_append, List.cons.injEq] at htail
            exact hclosing ⟨hc, by rw [htail.left, List.head?_cons]⟩

theorem maskedEnd_blockComment {body : List Char} (hbody : ClosesComments 1 body)
    (before rest : List Char) :
    maskedEnd (before ++ ((Token.blockComment body).text ++ rest)) before.length =
      some (before.length + (Token.blockComment body).text.length) := by
  have htwo : (Token.blockComment body).text ++ rest = '/' :: '*' :: (body ++ rest) := rfl
  have hslashes : ¬ ['/', '/'].isPrefixOf ('/' :: '*' :: (body ++ rest)) = true := by
    rw [isPrefixOf_pair]
    exact fun h => absurd h.right (by simp)
  have hstar : ['/', '*'].isPrefixOf ('/' :: '*' :: (body ++ rest)) = true := rfl
  have hend : blockCommentEnd (before ++ '/' :: '*' :: (body ++ rest)) before.length =
      before.length + (Token.blockComment body).text.length := by
    have hshift : before ++ '/' :: '*' :: (body ++ rest) =
        (before ++ ['/', '*']) ++ (body ++ rest) := by simp
    have hlength : before.length + 2 = (before ++ ['/', '*']).length := by simp
    unfold blockCommentEnd
    rw [hshift, hlength, List.drop_left, blockLoop_closes hbody]
    simp [Token.text]
    omega
  unfold maskedEnd
  rw [htwo, rawStringEnd_none_of_ne (by decide) (by decide), startsWith_append,
    startsWith_append, hend]
  simp only
  rw [if_neg hslashes, if_pos hstar]

/-!
## String literals
-/

theorem quotedLoop_quote (rest : List Char) (cursor : Nat) :
    quotedLoop ('"' :: rest) cursor = cursor + 1 := by
  cases rest with
  | nil => rfl
  | cons _ _ => rfl

theorem quotedLoop_plain {c : Char} (hquote : c ≠ '"') (hbackslash : c ≠ '\\')
    (rest : List Char) (cursor : Nat) :
    quotedLoop (c :: rest) cursor = quotedLoop rest (cursor + 1) := by
  cases rest with
  | nil => simp [quotedLoop, hquote, hbackslash]
  | cons d rest => simp [quotedLoop, hquote, hbackslash]

theorem quotedLoop_escape (c : Char) (rest : List Char) (cursor : Nat) :
    quotedLoop ('\\' :: c :: rest) cursor = quotedLoop rest (cursor + 2) := by
  simp [quotedLoop]

theorem quotedLoop_items {items : List StringItem}
    (hitems : forall item : StringItem, item ∈ items -> item.Valid) (rest : List Char)
    (cursor : Nat) :
    quotedLoop (items.flatMap StringItem.text ++ '"' :: rest) cursor =
      cursor + (items.flatMap StringItem.text).length + 1 := by
  induction items generalizing cursor with
  | nil => exact quotedLoop_quote rest cursor
  | cons item items ih =>
      have htail := ih (fun other hother => hitems other (List.mem_cons_of_mem item hother))
      have hitem := hitems item List.mem_cons_self
      rw [List.flatMap_cons, List.append_assoc, List.length_append]
      cases item with
      | plain c =>
          rcases hitem with ⟨hquote, hbackslash⟩
          show quotedLoop (c :: (items.flatMap StringItem.text ++ '"' :: rest)) cursor = _
          rw [quotedLoop_plain hquote hbackslash, htail]
          simp only [StringItem.text, List.length_cons, List.length_nil]
          omega
      | escape c =>
          show quotedLoop ('\\' :: c :: (items.flatMap StringItem.text ++ '"' :: rest)) cursor = _
          rw [quotedLoop_escape, htail]
          simp only [StringItem.text, List.length_cons, List.length_nil]
          omega

theorem quotedStringEnd_append {items : List StringItem}
    (hitems : forall item : StringItem, item ∈ items -> item.Valid)
    (before rest : List Char) :
    quotedStringEnd (before ++ '"' :: (items.flatMap StringItem.text ++ '"' :: rest))
      before.length = before.length + ((items.flatMap StringItem.text).length + 2) := by
  have hshift : before ++ '"' :: (items.flatMap StringItem.text ++ '"' :: rest) =
      (before ++ ['"']) ++ (items.flatMap StringItem.text ++ '"' :: rest) := by simp
  have hlength : before.length + 1 = (before ++ ['"']).length := by simp
  unfold quotedStringEnd
  rw [hshift, hlength, List.drop_left, quotedLoop_items hitems, ← hlength]
  omega

theorem maskedEnd_quote (before rest : List Char) :
    maskedEnd (before ++ '"' :: rest) before.length =
      some (quotedStringEnd (before ++ '"' :: rest) before.length) := by
  have hslash : '/' ≠ '"' := by decide
  unfold maskedEnd
  rw [rawStringEnd_none_of_ne (by decide) (by decide), startsWith_append, startsWith_append,
    getElem?_length_append]
  simp only
  rw [if_neg (not_isPrefixOf_pair hslash rest), if_neg (not_isPrefixOf_pair hslash rest),
    if_pos List.head?_cons]

theorem maskedEnd_byteQuote (before rest : List Char) :
    maskedEnd (before ++ 'b' :: '"' :: rest) before.length =
      some (quotedStringEnd (before ++ 'b' :: '"' :: rest) (before.length + 1)) := by
  have hraw : rawStringEnd (before ++ 'b' :: '"' :: rest) before.length = none :=
    rawStringEnd_none (fun h => absurd h (by decide)) (fun _ h => absurd h (by simp))
  have hslash : '/' ≠ 'b' := by decide
  have hbyte : ['b', '"'].isPrefixOf ('b' :: '"' :: rest) = true := rfl
  unfold maskedEnd
  rw [hraw, startsWith_append, startsWith_append, startsWith_append, getElem?_length_append]
  simp only
  rw [if_neg (not_isPrefixOf_pair hslash _), if_neg (not_isPrefixOf_pair hslash _),
    if_neg (by simp), if_pos hbyte]

theorem maskedEnd_string {byte : Bool} {items : List StringItem}
    (hitems : forall item : StringItem, item ∈ items -> item.Valid)
    (before rest : List Char) :
    maskedEnd (before ++ ((Token.string byte items).text ++ rest)) before.length =
      some (before.length + (Token.string byte items).text.length) := by
  cases byte with
  | false =>
      have hstring : (Token.string false items).text ++ rest =
          '"' :: (items.flatMap StringItem.text ++ '"' :: rest) := by
        simp [Token.text, bytePrefix]
      have hlength : (Token.string false items).text.length =
          (items.flatMap StringItem.text).length + 2 := by
        simp [Token.text, bytePrefix]
      rw [hstring, hlength, maskedEnd_quote, quotedStringEnd_append hitems]
  | true =>
      have hstring : (Token.string true items).text ++ rest =
          'b' :: '"' :: (items.flatMap StringItem.text ++ '"' :: rest) := by
        simp [Token.text, bytePrefix]
      have hlength : (Token.string true items).text.length =
          (items.flatMap StringItem.text).length + 3 := by
        simp [Token.text, bytePrefix]
      have hshift : before ++ 'b' :: '"' :: (items.flatMap StringItem.text ++ '"' :: rest) =
          (before ++ ['b']) ++ '"' :: (items.flatMap StringItem.text ++ '"' :: rest) := by simp
      have hone : before.length + 1 = (before ++ ['b']).length := by simp
      rw [hstring, hlength, maskedEnd_byteQuote, hshift, hone, quotedStringEnd_append hitems,
        ← hone, Option.some_inj]
      omega

/-!
## Raw strings
-/

theorem hashes_prefix {hashes : Nat} {text rest : List Char}
    (h : List.replicate hashes '#' <+: text ++ '"' :: rest) :
    List.replicate hashes '#' <+: text := by
  induction text generalizing hashes with
  | nil =>
      cases hashes with
      | zero => exact List.nil_prefix
      | succ hashes =>
          rw [List.nil_append, List.replicate_succ, List.cons_prefix_cons] at h
          exact absurd h.left (by decide)
  | cons c text ih =>
      cases hashes with
      | zero => exact List.nil_prefix
      | succ hashes =>
          rw [List.cons_append, List.replicate_succ, List.cons_prefix_cons] at h
          rw [List.replicate_succ, List.cons_prefix_cons]
          exact ⟨h.left, ih h.right⟩

theorem findLoop_endMarker {hashes : Nat} {body : List Char}
    (hbody : ¬ rawClose hashes <:+: body) (rest : List Char) (cursor : Nat) :
    findLoop (endMarker hashes) (body ++ (rawClose hashes ++ rest)) cursor =
      some (cursor + body.length) := by
  induction body generalizing cursor with
  | nil =>
      have hfound : (endMarker hashes).isPrefixOf (rawClose hashes ++ rest) = true := by
        rw [List.isPrefixOf_iff_prefix]
        exact List.prefix_append _ _
      have hcons : rawClose hashes ++ rest = '"' :: (List.replicate hashes '#' ++ rest) := rfl
      rw [hcons] at hfound
      rw [List.nil_append, hcons, findLoop, if_pos hfound]
      rfl
  | cons c body ih =>
      have hno : ¬ (endMarker hashes).isPrefixOf
          (c :: (body ++ (rawClose hashes ++ rest))) = true := by
        rw [List.isPrefixOf_iff_prefix, endMarker, List.cons_prefix_cons]
        rintro ⟨hc, hhashes⟩
        apply hbody
        apply List.IsPrefix.isInfix
        rw [rawClose, List.cons_prefix_cons]
        exact ⟨hc, hashes_prefix hhashes⟩
      have htail : ¬ rawClose hashes <:+: body := by
        intro h
        exact hbody (List.infix_cons h)
      rw [List.cons_append, findLoop, if_neg hno, ih htail, List.length_cons]
      congr 1
      omega

theorem takeWhile_hashes (hashes : Nat) (rest : List Char) :
    (List.replicate hashes '#' ++ '"' :: rest).takeWhile (fun c => decide (c = '#')) =
      List.replicate hashes '#' := by
  rw [List.takeWhile_append_of_pos]
  · rw [List.takeWhile_cons_of_neg (by decide), List.append_nil]
  · intro c hc
    rw [(List.mem_replicate.mp hc).right]
    rfl

theorem rawBodyEnd_append {hashes : Nat} {body : List Char}
    (hbody : ¬ rawClose hashes <:+: body) (before rest : List Char) :
    rawBodyEnd (before ++ (List.replicate hashes '#' ++
        '"' :: (body ++ (rawClose hashes ++ rest)))) before.length =
      some (before.length + (hashes + 1 + body.length + (hashes + 1))) := by
  have hshift : before ++ (List.replicate hashes '#' ++
        '"' :: (body ++ (rawClose hashes ++ rest))) =
      (before ++ List.replicate hashes '#') ++ '"' :: (body ++ (rawClose hashes ++ rest)) := by
    simp
  have hshift' : before ++ (List.replicate hashes '#' ++
        '"' :: (body ++ (rawClose hashes ++ rest))) =
      (before ++ List.replicate hashes '#' ++ ['"']) ++ (body ++ (rawClose hashes ++ rest)) := by
    simp
  have hquote : (before ++ (List.replicate hashes '#' ++
      '"' :: (body ++ (rawClose hashes ++ rest))))[before.length +
        (List.replicate hashes '#').length]? = some '"' := by
    rw [← List.length_append, hshift, getElem?_length_append, List.head?_cons]
  have hfind : find (before ++ (List.replicate hashes '#' ++
      '"' :: (body ++ (rawClose hashes ++ rest)))) (endMarker hashes)
        (before.length + hashes + 1) = some (before.length + hashes + 1 + body.length) := by
    have hlength : before.length + hashes + 1 =
        (before ++ List.replicate hashes '#' ++ ['"']).length := by
      simp
      omega
    rw [hshift', hlength, find_append, findLoop_endMarker hbody]
  unfold rawBodyEnd
  simp only [List.drop_left, takeWhile_hashes]
  rw [if_pos hquote, List.length_replicate, hfind]
  simp only [endMarker, List.length_cons, List.length_replicate, Option.some_inj]
  omega

/-- A raw string begins whatever follows its opening quote. -/
theorem rawBodyEnd_ne_none {text : List Char} (h : text.head? = some '"')
    (before : List Char) : rawBodyEnd (before ++ text) before.length ≠ none := by
  cases text with
  | nil => cases h
  | cons c rest =>
      rw [List.head?_cons, Option.some_inj] at h
      have hhashes : (c :: rest).takeWhile (fun c => decide (c = '#')) = [] := by
        rw [h]
        rfl
      unfold rawBodyEnd
      simp only [List.drop_left, hhashes, List.length_nil, Nat.add_zero, getElem?_length_append]
      rw [List.head?_cons, h, if_pos rfl]
      split
      · exact Option.some_ne_none _
      · exact Option.some_ne_none _

theorem rawString_text (byte : Bool) (hashes : Nat) (body rest : List Char) :
    (Token.rawString byte hashes body).text ++ rest =
      bytePrefix byte ++ 'r' :: (List.replicate hashes '#' ++
        '"' :: (body ++ (rawClose hashes ++ rest))) := by
  simp [Token.text]

theorem rawStringEnd_rawString {byte : Bool} {hashes : Nat} {body : List Char}
    (hbody : ¬ rawClose hashes <:+: body) (before rest : List Char) :
    rawStringEnd (before ++ ((Token.rawString byte hashes body).text ++ rest)) before.length =
      some (before.length + (Token.rawString byte hashes body).text.length) := by
  have hlength : (Token.rawString byte hashes body).text.length =
      (bytePrefix byte).length + 1 + (hashes + 1 + body.length + (hashes + 1)) := by
    simp [Token.text, rawClose]
    omega
  rw [rawString_text, hlength]
  cases byte with
  | true =>
      show rawStringEnd (before ++ 'b' :: 'r' :: _) before.length = _
      rw [rawStringEnd_byte, rawBodyEnd_append hbody, List.length_append, Option.some_inj]
      simp only [bytePrefix, if_true, List.length_cons, List.length_nil]
      omega
  | false =>
      show rawStringEnd (before ++ 'r' :: _) before.length = _
      rw [rawStringEnd_plain, rawBodyEnd_append hbody, List.length_append, Option.some_inj]
      simp only [bytePrefix, Bool.false_eq_true, if_false, List.length_cons, List.length_nil]
      omega

theorem maskedEnd_rawString {byte : Bool} {hashes : Nat} {body : List Char}
    (hbody : ¬ rawClose hashes <:+: body) (before rest : List Char) :
    maskedEnd (before ++ ((Token.rawString byte hashes body).text ++ rest)) before.length =
      some (before.length + (Token.rawString byte hashes body).text.length) := by
  unfold maskedEnd
  rw [rawStringEnd_rawString hbody]

end PurityGate

end Seej
