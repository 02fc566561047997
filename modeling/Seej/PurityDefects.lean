import Seej.PurityMasking

/-!
# Where the purity gate hides code

A character literal for a quote opens a string that is not there, and a lifetime
that ends in `r` or `b` with a string behind it loses its last letter.  Cut a
sequence of tokens behind any of them, and the code that follows is blanked.
-/

namespace Seej

namespace PurityGate

open RustTokens

def nextLine : List Token :=
  [.whitespace '\n', .identifier false ['x']]

/-!
## Sequences cut short
-/

theorem Token.text_ne_nil {token : Token} (h : token.Valid) : token.text ≠ [] := by
  cases token with
  | identifier raw name =>
      intro hnil
      exact h.left (List.append_eq_nil_iff.mp hnil).right
  | _ => simp [Token.text]

theorem head?_append_of_ne_nil {left : List Char} (h : left ≠ []) (right : List Char) :
    (left ++ right).head? = left.head? := by
  rcases List.exists_cons_of_ne_nil h with ⟨c, rest, hcons⟩
  rw [hcons]
  rfl

theorem endsBefore_lineBreak (token : Token) : token.EndsBefore (some '\n') := by
  cases token with
  | identifier raw name =>
      intro c hc
      rw [← Option.some_inj.mp hc]
      decide
  | lifetime name =>
      intro c hc
      rw [← Option.some_inj.mp hc]
      decide
  | punctuation c =>
      intro _
      decide
  | lineComment body =>
      intro c hc
      exact (Option.some_inj.mp hc).symm
  | _ => trivial

theorem harmless_lineBreak {token : Token} {next : Option Char} (h : Harmless token next) :
    Harmless token (some '\n') := by
  cases token with
  | lifetime name =>
      intro _
      decide
  | character byte item => cases item with
    | plain c => exact h
    | simple c => exact h
    | _ => trivial
  | _ => trivial

theorem inStep_nextLine : InStep nextLine [] := by
  have hbreak : isWhitespace '\n' = true := by decide
  have hname : forall c : Char, c ∈ ['x'] -> isIdentifierChar c = true := by
    intro c hc
    rw [List.mem_singleton.mp hc]
    decide
  refine ⟨hbreak, trivial, trivial, ⟨List.cons_ne_nil 'x' [], hname⟩, ?_, trivial, trivial⟩
  intro c hc
  cases hc

theorem inStep_take {tokens : List Token} (h : WellFormed tokens) (hsafe : Safe tokens)
    (n : Nat) : InStep (tokens.take n ++ nextLine) [] := by
  induction h generalizing n with
  | nil =>
      rw [List.take_nil]
      exact inStep_nextLine
  | @cons token rest hvalid hends hrest ih =>
      cases n with
      | zero => exact inStep_nextLine
      | succ n =>
          rw [List.take_succ_cons, List.cons_append, InStep, List.append_nil]
          -- what follows is the next token or the line break
          cases hrest with
          | nil =>
              rw [List.take_nil, List.nil_append]
              exact ⟨hvalid, endsBefore_lineBreak token, harmless_lineBreak hsafe.left,
                inStep_nextLine⟩
          | @cons next more hnext _ _ =>
              cases n with
              | zero =>
                  exact ⟨hvalid, endsBefore_lineBreak token, harmless_lineBreak hsafe.left,
                    inStep_nextLine⟩
              | succ n =>
                  have hsame : (sourceText ((next :: more).take (n + 1) ++ nextLine)).head? =
                      (sourceText (next :: more)).head? := by
                    rw [List.take_succ_cons, List.cons_append, sourceText_cons, sourceText_cons,
                      head?_append_of_ne_nil (Token.text_ne_nil hnext),
                      head?_append_of_ne_nil (Token.text_ne_nil hnext)]
                  rw [hsame]
                  exact ⟨hvalid, hends, hsafe.left, ih hsafe.right (n + 1)⟩

/-!
## The first token that does harm
-/

theorem inStep_congr {tokens : List Token} {rest rest' : List Char}
    (hhead : rest.head? = rest'.head?) (h : InStep tokens rest) : InStep tokens rest' := by
  induction tokens with
  | nil => trivial
  | cons token tokens ih =>
      have hsame : (sourceText tokens ++ rest).head? = (sourceText tokens ++ rest').head? := by
        rw [List.head?_append, List.head?_append, hhead]
      rcases h with ⟨hvalid, hends, hharmless, htail⟩
      rw [hsame] at hends hharmless
      exact ⟨hvalid, hends, hharmless, ih htail⟩

theorem exists_harmful {tokens : List Token} (h : WellFormed tokens) (hnot : ¬ Safe tokens) :
    exists (before : List Token) (token : Token) (after : List Token),
      tokens = before ++ token :: after ∧ InStep before (sourceText (token :: after)) ∧
        token.Valid ∧ ¬ Harmless token (sourceText after).head? := by
  induction h with
  | nil => exact absurd trivial hnot
  | @cons token rest hvalid hends _ ih =>
      by_cases hharmless : Harmless token (sourceText rest).head?
      · have htail : ¬ Safe rest := fun hsafe => hnot ⟨hharmless, hsafe⟩
        rcases ih htail with ⟨before, harmful, after, hsplit, hstep, hvalid', hharm⟩
        refine ⟨token :: before, harmful, after, by rw [hsplit, List.cons_append], ?_, hvalid',
          hharm⟩
        rw [hsplit, sourceText_append] at hends hharmless
        exact ⟨hvalid, hends, hharmless, hstep⟩
      · exact ⟨[], token, rest, rfl, trivial, hvalid, hharmless⟩

/-!
## A quote in a character literal
-/

theorem length_flatMap_maskedText (tokens : List Token) :
    (tokens.flatMap maskedText).length = (sourceText tokens).length := by
  unfold sourceText
  rw [List.length_flatMap, List.length_flatMap]
  simp only [length_maskedText]

theorem text_quoteCharacter (byte : Bool) {item : CharItem}
    (h : item = .plain '"' ∨ item = .simple '"') :
    exists opening : List Char,
      (Token.character byte item).text = opening ++ ['"', '\''] ∧
        forall rest : List Char, CodeText opening ('"' :: rest) := by
  have hplain : forall rest : List Char,
      CodeText (bytePrefix byte ++ ['\'']) rest := by
    intro rest
    exact (codeText_bytePrefix byte rest).append
      (CodeText.cons (codeAt_apostrophe rest) CodeText.nil)
  rcases h with h | h
  · refine ⟨bytePrefix byte ++ ['\''], ?_, fun rest => hplain _⟩
    rw [h]
    simp [Token.text, CharItem.text]
  · refine ⟨(bytePrefix byte ++ ['\'']) ++ ['\\'], ?_, fun rest => ?_⟩
    · rw [h]
      simp [Token.text, CharItem.text]
    · have hbackslash : CodeText ['\\'] ('"' :: rest) :=
        CodeText.cons (codeAt_of_inert (by decide) _) CodeText.nil
      exact (hplain _).append hbackslash

theorem maskedEnd_phantom (before : List Char) :
    maskedEnd (before ++ (['"', '\'', '\n', 'x'] ++ [])) before.length =
      some (before.length + ['"', '\'', '\n', 'x'].length) := by
  have hshift : before ++ '"' :: ['\'', '\n', 'x'] = (before ++ ['"']) ++ ['\'', '\n', 'x'] := by
    simp
  have hlength : before.length + 1 = (before ++ ['"']).length := by simp
  rw [List.append_nil, maskedEnd_quote]
  unfold quotedStringEnd
  rw [hshift, hlength, List.drop_left]
  simp [quotedLoop]

/-- The code behind a character literal for a quote is blanked. -/
theorem mask_quoteCharacter {before : List Token} {byte : Bool} {item : CharItem}
    (hstep : InStep before ((Token.character byte item).text ++ sourceText nextLine))
    (h : item = .plain '"' ∨ item = .simple '"') :
    exists kept : List Char,
      maskCommentsAndLiterals
        (sourceText (before ++ [.character byte item] ++ nextLine)) = kept ++ [' '] := by
  rcases text_quoteCharacter byte h with ⟨opening, htext, hopening⟩
  have hphantom : Reads ['"', '\'', '\n', 'x'] [' ', ' ', '\n', ' '] [] :=
    reads_masked (by simp) maskedEnd_phantom
  have hcode : Reads opening opening (['"', '\'', '\n', 'x'] ++ []) :=
    reads_code (hopening ['\'', '\n', 'x'])
  have hafter := hcode.append hphantom rfl
  have hrest : (Token.character byte item).text ++ sourceText nextLine =
      (opening ++ ['"', '\'', '\n', 'x']) ++ [] := by
    rw [htext]
    simp [nextLine, Token.text]
  rw [hrest] at hstep
  have hlength := length_flatMap_maskedText before
  have hall := (reads_tokens hstep).append hafter hlength [] [] rfl
  refine ⟨before.flatMap maskedText ++ (opening ++ [' ', ' ', '\n']), ?_⟩
  have hsource : sourceText (before ++ [.character byte item] ++ nextLine) =
      sourceText before ++ (opening ++ ['"', '\'', '\n', 'x']) := by
    rw [List.append_assoc, sourceText_append, sourceText_append, sourceText_cons, sourceText_nil,
      List.append_nil, hrest, List.append_nil]
  simp only [List.append_nil, List.nil_append, List.length_nil] at hall
  rw [hsource, maskCommentsAndLiterals_eq, hall, maskFrom_end (Nat.le_refl _)]
  simp only [List.append_assoc, List.cons_append, List.nil_append]

theorem not_masksOnly_of_blank_end {tokens : List Token} {kept : List Char} :
    ¬ MasksOnly (tokens ++ nextLine) (kept ++ [' ']) := by
  intro h
  unfold MasksOnly at h
  have hregions : regions (tokens ++ nextLine) =
      (regions tokens ++ [(.code, '\n')]) ++ [(.code, 'x')] := by
    unfold regions
    rw [List.flatMap_append]
    simp [nextLine, Token.text, region]
  rw [hregions, ← List.forall₂_reverse_iff] at h
  simp only [List.reverse_append, List.reverse_cons, List.reverse_nil, List.nil_append,
    List.cons_append] at h
  cases h with
  | cons hlast _ =>
      have hchanged : ' ' ≠ 'x' := by decide
      exact hchanged hlast

/-!
## A lifetime in front of a string
-/

theorem maskPreserveNewlines_getElem?_start {chars : List Char} {start stop : Nat} {c : Char}
    (hlt : start < stop) (hc : chars[start]? = some c) :
    (maskPreserveNewlines chars start stop)[start]? = some (blank c) := by
  have hin : start < chars.length := (List.getElem?_eq_some_iff.mp hc).1
  have htake : (chars.take start).length = start := by
    rw [List.length_take]
    omega
  have hstretch : ((chars.take stop).drop start)[0]? = some c := by
    rw [List.getElem?_drop, Nat.add_zero, List.getElem?_take_of_lt hlt, hc]
  have hnonempty : 0 < (((chars.take stop).drop start).map blank).length := by
    rw [List.length_map]
    exact (List.getElem?_eq_some_iff.mp hstretch).1
  unfold maskPreserveNewlines
  rw [List.append_assoc, List.getElem?_append_right (by omega), htake, Nat.sub_self,
    List.getElem?_append_left hnonempty, List.getElem?_map, hstretch]
  rfl

theorem maskedEnd_of_kept {word : List Char} (hvisible : forall c : Char, c ∈ word -> blank c ≠ c)
    {before done rest : List Char} (hdone : done.length = before.length)
    (hkept : forall i : Nat, i < word.length ->
      (maskFrom (before ++ (word ++ rest)) (done ++ (word ++ rest))
        before.length)[before.length + i]? = word[i]?) (i : Nat) (hi : i < word.length) :
    maskedEnd (before ++ (word ++ rest)) (before.length + i) = none := by
  induction word generalizing before done i with
  | nil => cases hi
  | cons c word ih =>
      have hlt : before.length < (before ++ (c :: word ++ rest)).length := by simp
      have hfirst : maskedEnd (before ++ (c :: word ++ rest)) before.length = none := by
        cases hend : maskedEnd (before ++ (c :: word ++ rest)) before.length with
        | none => rfl
        | some stop =>
            have hgt := maskedEnd_gt hlt hend
            have hc : (done ++ (c :: word ++ rest))[before.length]? = some c := by
              rw [← hdone, getElem?_length_append]
              rfl
            have hblank := hkept 0 (by simp)
            rw [maskFrom_masked hlt hend, Nat.add_zero,
              maskFrom_getElem?_of_lt _ _ hgt, maskPreserveNewlines_getElem?_start hgt hc] at hblank
            exact absurd (Option.some_inj.mp hblank) (hvisible c List.mem_cons_self)
      cases i with
      | zero => exact hfirst
      | succ i =>
          have hshift : forall chars : List Char, chars ++ (c :: word ++ rest) =
              (chars ++ [c]) ++ (word ++ rest) := by
            intro chars
            simp
          have hlength : (before ++ [c]).length = before.length + 1 := by simp
          have hdone' : (done ++ [c]).length = (before ++ [c]).length := by simp [hdone]
          have hkept' : forall j : Nat, j < word.length ->
              (maskFrom ((before ++ [c]) ++ (word ++ rest)) ((done ++ [c]) ++ (word ++ rest))
                (before ++ [c]).length)[(before ++ [c]).length + j]? = word[j]? := by
            intro j hj
            have hj' := hkept (j + 1) (by simpa using hj)
            rw [maskFrom_code hlt hfirst, hshift, hshift done] at hj'
            rw [hlength, Nat.add_assoc, Nat.add_comm 1 j, hj']
            rfl
          have hnext := ih (fun b hb => hvisible b (List.mem_cons_of_mem c hb)) hdone' hkept' i
            (by simpa using hi)
          rw [hshift, Nat.add_comm i 1, ← Nat.add_assoc, ← hlength]
          exact hnext

theorem maskedEnd_prefix {c : Char} (hc : c = 'r' ∨ c = 'b') (before rest : List Char) :
    maskedEnd (before ++ c :: '"' :: rest) before.length ≠ none := by
  rcases hc with hc | hc
  · have hquote : ('"' :: rest).head? = some '"' := rfl
    have hraw := rawBodyEnd_ne_none hquote (before ++ ['r'])
    rw [← rawStringEnd_plain] at hraw
    rw [hc]
    unfold maskedEnd
    cases hend : rawStringEnd (before ++ 'r' :: '"' :: rest) before.length with
    | none => exact absurd hend hraw
    | some stop => exact Option.some_ne_none _
  · rw [hc, maskedEnd_byteQuote]
    exact Option.some_ne_none _

theorem forall₂_getElem? {α β : Type} {R : α -> β -> Prop} {left : List α} {right : List β}
    (h : List.Forall₂ R left right) {i : Nat} {a : α} (ha : left[i]? = some a) :
    exists b : β, right[i]? = some b ∧ R a b := by
  induction h generalizing i with
  | nil => cases ha
  | cons hab _ ih =>
      cases i with
      | zero =>
          rw [List.getElem?_cons_zero, Option.some_inj] at ha
          rw [← ha]
          exact ⟨_, rfl, hab⟩
      | succ i => exact ih ha

theorem MasksOnly.getElem? {before : List Token} {token : Token} {after : List Token}
    {output : List Char} (h : MasksOnly (before ++ token :: after) output)
    (hregion : region token = .code) {i : Nat} (hi : i < token.text.length) :
    output[(sourceText before).length + i]? = token.text[i]? := by
  have hlength : (regions before).length = (sourceText before).length := by
    unfold regions sourceText
    rw [List.length_flatMap, List.length_flatMap]
    simp only [List.length_map]
  have hat : (regions (before ++ token :: after))[(sourceText before).length + i]? =
      some (.code, token.text[i]) := by
    have hsplit : regions (before ++ token :: after) =
        regions before ++ (token.text.map (fun c => (region token, c)) ++ regions after) := by
      unfold regions
      rw [List.flatMap_append, List.flatMap_cons]
    rw [hsplit, ← hlength, List.getElem?_append_right (by omega), Nat.add_sub_cancel_left,
      List.getElem?_append_left (by rw [List.length_map]; exact hi), List.getElem?_map,
      List.getElem?_eq_getElem hi, hregion]
    rfl
  rcases forall₂_getElem? h hat with ⟨d, hd, hallows⟩
  rw [hd, List.getElem?_eq_getElem hi]
  exact congrArg some hallows

theorem blank_ne_of_isIdentifierChar {c : Char} (h : isIdentifierChar c = true) :
    blank c ≠ c := by
  have hnone : c ∉ [' ', '\r', '\n'] := not_mem_of_class h rfl
  simp only [List.mem_cons, List.not_mem_nil, or_false, not_or] at hnone
  have hbreak : ¬ isLineBreak c = true := by
    unfold isLineBreak
    rw [decide_eq_true_eq]
    exact not_or.mpr hnone.right
  unfold blank
  rw [if_neg hbreak]
  exact Ne.symm hnone.left

theorem EndsLikePrefix.exists_append {name : List Char} (h : EndsLikePrefix name) :
    exists (front : List Char) (c : Char), name = front ++ [c] ∧ (c = 'r' ∨ c = 'b') := by
  rcases h with h | h
  · rcases List.getLast?_eq_some_iff.mp h with ⟨front, hname⟩
    exact ⟨front, 'r', hname, Or.inl rfl⟩
  · rcases List.getLast?_eq_some_iff.mp h with ⟨front, hname⟩
    exact ⟨front, 'b', hname, Or.inr rfl⟩

/-- The scanner gets over harmless tokens, whatever follows them. -/
theorem mask_append {tokens : List Token} {rest : List Char} (h : InStep tokens rest) :
    maskCommentsAndLiterals (sourceText tokens ++ rest) =
      maskFrom (sourceText tokens ++ rest) (tokens.flatMap maskedText ++ rest)
        (sourceText tokens).length :=
  reads_tokens h [] [] rfl

theorem not_masksOnly_of_lifetime {before after : List Token} {name : List Char}
    (hstep : InStep before (sourceText (.lifetime name :: after)))
    (hvalid : (Token.lifetime name).Valid) (hletter : EndsLikePrefix name)
    (hquote : (sourceText after).head? = some '"') :
    ¬ MasksOnly (before ++ .lifetime name :: after)
      (maskCommentsAndLiterals (sourceText (before ++ .lifetime name :: after))) := by
  intro h
  have hlt : (sourceText before).length <
      (sourceText before ++ '\'' :: (name ++ sourceText after)).length := by simp
  -- the scanner has come to the name
  have hshift : forall chars : List Char, chars ++ '\'' :: (name ++ sourceText after) =
      (chars ++ ['\'']) ++ (name ++ sourceText after) := by
    intro chars
    simp
  have hone : (sourceText before ++ ['\'']).length = (sourceText before).length + 1 := by simp
  have hreached : maskCommentsAndLiterals (sourceText (before ++ .lifetime name :: after)) =
      maskFrom ((sourceText before ++ ['\'']) ++ (name ++ sourceText after))
        ((before.flatMap maskedText ++ ['\'']) ++ (name ++ sourceText after))
        (sourceText before ++ ['\'']).length := by
    have hstart := mask_append hstep
    rw [sourceText_cons] at hstart
    rw [sourceText_append, sourceText_cons, hstart]
    show maskFrom (_ ++ '\'' :: (name ++ sourceText after))
      (_ ++ '\'' :: (name ++ sourceText after)) _ = _
    rw [maskFrom_code hlt (maskedEnd_code (codeAt_apostrophe _)), hshift, hshift, hone]
  have hdone : (before.flatMap maskedText ++ ['\'']).length =
      (sourceText before ++ ['\'']).length := by
    rw [List.length_append, List.length_append, length_flatMap_maskedText]
  have hvisible : forall c : Char, c ∈ name -> blank c ≠ c :=
    fun c hc => blank_ne_of_isIdentifierChar (hvalid.right c hc)
  have hkept : forall i : Nat, i < name.length ->
      (maskFrom ((sourceText before ++ ['\'']) ++ (name ++ sourceText after))
        ((before.flatMap maskedText ++ ['\'']) ++ (name ++ sourceText after))
        (sourceText before ++ ['\'']).length)[(sourceText before ++ ['\'']).length + i]? =
          name[i]? := by
    intro i hi
    have hi' : i + 1 < (Token.lifetime name).text.length := by
      simp only [Token.text, List.length_cons]
      omega
    have hchar := h.getElem? rfl hi'
    rw [hreached] at hchar
    rw [hone, Nat.add_assoc, Nat.add_comm 1 i, ← hone, hchar]
    rfl
  -- and stops at its last letter
  rcases hletter.exists_append with ⟨front, c, hname, hc⟩
  have hlast : front.length < name.length := by
    rw [hname]
    simp
  have hnone := maskedEnd_of_kept hvisible hdone hkept front.length hlast
  rcases List.head?_eq_some_iff.mp hquote with ⟨rest, hrest⟩
  have hsplit : (sourceText before ++ ['\'']) ++ (name ++ sourceText after) =
      ((sourceText before ++ ['\'']) ++ front) ++ c :: '"' :: rest := by
    rw [hname, hrest]
    simp
  rw [hsplit, ← List.length_append] at hnone
  exact maskedEnd_prefix hc _ rest hnone

/-!
## Safe tokens are exactly the ones that hide nothing
-/

theorem harmful_cases {token : Token} {next : Option Char} (h : ¬ Harmless token next) :
    (exists (byte : Bool) (item : CharItem), token = .character byte item ∧
      (item = .plain '"' ∨ item = .simple '"')) ∨
    exists name : List Char, token = .lifetime name ∧ EndsLikePrefix name ∧ next = some '"' := by
  cases token with
  | character byte item =>
      left
      cases item with
      | plain c =>
          have hc : c = '"' := Classical.not_not.mp h
          exact ⟨byte, _, rfl, Or.inl (by rw [hc])⟩
      | simple c =>
          have hc : c = '"' := Classical.not_not.mp h
          exact ⟨byte, _, rfl, Or.inr (by rw [hc])⟩
      | hex _ _ => exact absurd trivial h
      | unicode _ => exact absurd trivial h
  | lifetime name =>
      right
      have hname : ¬ (EndsLikePrefix name -> next ≠ some '"') := h
      rw [Classical.not_imp, ne_eq, Classical.not_not] at hname
      exact ⟨name, rfl, hname.left, hname.right⟩
  | _ => exact absurd trivial h

theorem exists_hidden {tokens : List Token} (h : WellFormed tokens) (hnot : ¬ Safe tokens) :
    exists n : Nat, ¬ MasksOnly (tokens.take n ++ nextLine)
      (maskCommentsAndLiterals (sourceText (tokens.take n ++ nextLine))) := by
  rcases exists_harmful h hnot with ⟨before, token, after, hsplit, hstep, hvalid, hharm⟩
  have hhead : forall more : List Char,
      (sourceText (token :: after)).head? = (token.text ++ more).head? := by
    intro more
    rw [sourceText_cons, head?_append_of_ne_nil (Token.text_ne_nil hvalid),
      head?_append_of_ne_nil (Token.text_ne_nil hvalid)]
  rcases harmful_cases hharm with ⟨byte, item, htoken, hitem⟩ | ⟨name, htoken, hletter, hquote⟩
  · -- cut behind the character literal
    refine ⟨before.length + 1, ?_⟩
    have hcut : tokens.take (before.length + 1) = before ++ [.character byte item] := by
      rw [hsplit, htoken, List.take_length_add_append]
      rfl
    have hstep' := inStep_congr (hhead (sourceText nextLine)) hstep
    rw [htoken] at hstep'
    rcases mask_quoteCharacter hstep' hitem with ⟨kept, hmask⟩
    rw [hcut, hmask]
    exact not_masksOnly_of_blank_end
  · -- the string stands behind the lifetime already
    refine ⟨tokens.length, ?_⟩
    have hstep' : InStep before (sourceText (.lifetime name :: (after ++ nextLine))) := by
      rw [← htoken, sourceText_cons]
      exact inStep_congr (hhead _) hstep
    have hquote' : (sourceText (after ++ nextLine)).head? = some '"' := by
      rw [sourceText_append, List.head?_append, hquote]
      rfl
    rw [htoken] at hvalid
    have hhidden := not_masksOnly_of_lifetime hstep' hvalid hletter hquote'
    rw [List.take_length, hsplit, htoken, List.append_assoc, List.cons_append]
    exact hhidden

example :
    let tokens : List Token :=
      [.character false (.plain '"'), .whitespace ' ', .character false (.plain '"')]
    MasksOnly tokens (maskCommentsAndLiterals (sourceText tokens)) := by
  decide

end PurityGate

end Seej
