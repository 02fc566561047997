import Seej.Foundation.SelfDelimiting
import Seej.Json
import Seej.RuntimeRun

/-!
# What a JSON text says

The text of a batch without floats says what the batch is: no other such batch has it.
A value of a document is followed by a comma or a closing bracket, which numbers and
words do not contain; strings, lists and objects say themselves where they end.
-/

namespace Seej

open Foundation

namespace Json

/-!
## Characters
-/

theorem text_append (s t : String) : text (s ++ t) = text s ++ text t := by
  simp only [text, String.toByteArray_append, ByteArray.data_append, Array.toList_append]

theorem text_inj {s t : String} (h : text s = text t) : s = t := by
  apply String.toByteArray_inj.mp
  exact ByteArray.ext (Array.toList_inj.mp h)

theorem text_ofList (cs : List Char) :
    text (String.ofList cs) = cs.flatMap String.utf8EncodeChar := by
  induction cs with
  | nil => rfl
  | cons c cs ih =>
      rw [List.flatMap_cons, ← ih]
      simp only [text, String.toByteArray_ofList]
      rw [List.utf8Encode_cons, ByteArray.data_append, Array.toList_append,
        List.utf8Encode_singleton, List.data_toByteArray]

/-- No character begins like another one. -/
theorem utf8EncodeChar_inj_of_prefix {c d : Char}
    (h : String.utf8EncodeChar c <+: String.utf8EncodeChar d) : c = d := by
  rcases h with ⟨more, hmore⟩
  have hc := @ByteArray.utf8DecodeChar?_utf8EncodeChar_append more.toByteArray c
  have hd := @ByteArray.utf8DecodeChar?_utf8EncodeChar_append ByteArray.empty d
  rw [← hmore, List.toByteArray_append, ByteArray.append_empty] at hd
  exact Option.some.inj (hc.symm.trans hd)

/-!
## Values in their place
-/

/-- The comma and the brackets that close a list or an object. -/
def Closes (b : UInt8) : Prop :=
  b = 44 ∨ b = 93 ∨ b = 125

instance : DecidablePred Closes :=
  fun b => inferInstanceAs (Decidable (b = 44 ∨ b = 93 ∨ b = 125))

def Follows (rest : Bytes) : Prop :=
  forall b : UInt8, b ∈ rest.head? -> Closes b

theorem follows_cons {b : UInt8} (h : Closes b) (rest : Bytes) : Follows (b :: rest) := by
  intro first hfirst
  cases hfirst
  exact h

/-- The texts are told apart where values stand. -/
def Readable {α : Type} (print : α -> Bytes) : Prop :=
  Delimited Follows (fun _ : α => True) print

/-- The same for texts that never look like the end of a list or like `null`. -/
structure Values {α : Type} (print : α -> Bytes) : Prop where
  readable : Readable print
  opens : forall a : α, exists (first : UInt8) (more : Bytes),
    print a = first :: more ∧ first ≠ 93 ∧ first ≠ 110

namespace Values

variable {α γ : Type} {print : α -> Bytes}

theorem comap (h : Values print) (fields : γ -> α)
    (hfields : forall c d : γ, fields c = fields d -> c = d) :
    Values (fun c => print (fields c)) :=
  ⟨h.readable.comap hfields, fun c => h.opens (fields c)⟩

/-- Words and numbers, in which nothing closes. -/
theorem of_words (hwords : forall (a : α) (b : UInt8), b ∈ print a -> ¬ Closes b)
    (hopens : forall a : α, exists (first : UInt8) (more : Bytes),
      print a = first :: more ∧ first ≠ 110)
    (hinj : forall a b : α, print a = print b -> a = b) : Values print := by
  constructor
  case readable =>
    refine Delimited.of_alphabet (fun a _ => hwords a) ?_ (fun a b _ _ => hinj a b)
    intro rest hrest b hb
    exact not_not.mpr (hrest b hb)
  case opens =>
    intro a
    rcases hopens a with ⟨first, more, hfirst, hne⟩
    refine ⟨first, more, hfirst, ?_, hne⟩
    intro hclose
    have hmem : first ∈ print a := by
      rw [hfirst]
      exact List.mem_cons_self
    exact hwords a first hmem (Or.inr (Or.inl hclose))

theorem nullable (h : Values print) : Readable (nullable print) := by
  have hoption := h.readable.option 110 [117, 108, 108] (by
    intro a _
    rcases h.opens a with ⟨first, more, hfirst, _, hne⟩
    exact ⟨first, more, hfirst, hne⟩)
  intro x y _ _ rest rest' hrest hrest' heq
  apply hoption x y (fun _ _ => trivial) (fun _ _ => trivial) rest rest' hrest hrest'
  cases x <;> cases y <;> exact heq

end Values

/-!
## Numbers and words
-/

theorem number_eq (n : Nat) : number n = (Nat.toDigits 10 n).flatMap String.utf8EncodeChar := by
  rw [number, Nat.toString_eq_ofList_toDigits, text_ofList]

theorem number_inj {m n : Nat} (h : number m = number n) : m = n := by
  have htext := text_inj h
  rw [Nat.toString_eq_ofList_toDigits, Nat.toString_eq_ofList_toDigits] at htext
  have hdigits := String.ofList_inj.mp htext
  rw [← @Nat.ofDigitChars_ten_toDigits m, ← @Nat.ofDigitChars_ten_toDigits n, hdigits]

theorem mem_number {n : Nat} {b : UInt8} (h : b ∈ number n) : 48 ≤ b ∧ b ≤ 57 := by
  rw [number_eq] at h
  rcases List.mem_flatMap.mp h with ⟨c, hc, hb⟩
  have hdigit := Nat.isDigit_of_mem_toDigits (by decide) (by decide) hc
  rw [Char.isDigit, Bool.and_eq_true, decide_eq_true_eq, decide_eq_true_eq] at hdigit
  have hone : c.utf8Size = 1 :=
    Char.utf8Size_eq_one_iff.mpr (UInt32.le_trans hdigit.right (by decide))
  rw [String.utf8EncodeChar_eq_singleton hone] at hb
  rw [List.mem_singleton.mp hb]
  have hlow : 48 ≤ c.val.toNat := UInt32.le_iff_toNat_le.mp hdigit.left
  have hhigh : c.val.toNat ≤ 57 := UInt32.le_iff_toNat_le.mp hdigit.right
  rw [UInt8.le_iff_toNat_le, UInt8.le_iff_toNat_le, UInt32.toNat_toUInt8]
  show 48 ≤ c.val.toNat % 256 ∧ c.val.toNat % 256 ≤ 57
  omega

theorem number_opens (n : Nat) : exists (first : UInt8) (more : Bytes),
    number n = first :: more ∧ 48 ≤ first ∧ first ≤ 57 := by
  cases hnumber : number n with
  | nil =>
      have hempty : toString n = "" := text_inj hnumber
      exact absurd hempty Nat.repr_ne_empty
  | cons first more =>
      have hmem : first ∈ number n := by
        rw [hnumber]
        exact List.mem_cons_self
      exact ⟨first, more, rfl, mem_number hmem⟩

theorem not_closes_of_digit {b : UInt8} (h : 48 ≤ b ∧ b ≤ 57 ∨ b = 45) : ¬ Closes b := by
  rintro (hclose | hclose | hclose) <;> rw [hclose] at h <;> revert h <;> decide

theorem not_closes_of_all {word : Bytes}
    (h : word.all (fun b => !decide (Closes b)) = true) :
    forall b : UInt8, b ∈ word -> ¬ Closes b := by
  intro b hb hclose
  have hopen := List.all_eq_true.mp h b hb
  rw [decide_eq_true hclose] at hopen
  cases hopen

theorem number_values : Values number := by
  apply Values.of_words
  case hwords => exact fun n b hb => not_closes_of_digit (Or.inl (mem_number hb))
  case hopens =>
    intro n
    rcases number_opens n with ⟨first, more, hfirst, hdigit⟩
    refine ⟨first, more, hfirst, ?_⟩
    intro heq
    rw [heq] at hdigit
    revert hdigit
    decide
  case hinj => exact fun m n h => number_inj h

theorem integer_negSucc (n : Nat) : integer (Int.negSucc n) = 45 :: number (n + 1) :=
  text_append "-" (toString (n + 1))

theorem mem_integer {i : Int} {b : UInt8} (h : b ∈ integer i) : 48 ≤ b ∧ b ≤ 57 ∨ b = 45 := by
  cases i with
  | ofNat n => exact Or.inl (mem_number h)
  | negSucc n =>
      rw [integer_negSucc] at h
      rcases List.mem_cons.mp h with hsign | hdigit
      · exact Or.inr hsign
      · exact Or.inl (mem_number hdigit)

theorem integer_inj {i j : Int} (h : integer i = integer j) : i = j := by
  have hsign (m n : Nat) : number m ≠ 45 :: number n := by
    intro heq
    have hmem : (45 : UInt8) ∈ number m := by
      rw [heq]
      exact List.mem_cons_self
    exact absurd (mem_number hmem) (by decide)
  cases i with
  | ofNat m =>
      cases j with
      | ofNat n => rw [number_inj h]
      | negSucc n =>
          rw [integer_negSucc] at h
          exact absurd h (hsign m (n + 1))
  | negSucc m =>
      cases j with
      | ofNat n =>
          rw [integer_negSucc] at h
          exact absurd h.symm (hsign n (m + 1))
      | negSucc n =>
          rw [integer_negSucc, integer_negSucc] at h
          rw [Nat.succ.inj (number_inj (List.cons.inj h).right)]

theorem integer_values : Values integer := by
  apply Values.of_words
  case hwords => exact fun i b hb => not_closes_of_digit (mem_integer hb)
  case hopens =>
    intro i
    cases i with
    | ofNat n =>
        rcases number_values.opens n with ⟨first, more, hfirst, _, hne⟩
        exact ⟨first, more, hfirst, hne⟩
    | negSucc n => exact ⟨45, number (n + 1), integer_negSucc n, by decide⟩
  case hinj => exact fun i j h => integer_inj h

theorem boolean_values : Values boolean := by
  apply Values.of_words
  case hwords => intro b; cases b <;> exact not_closes_of_all (by decide)
  case hopens => intro b; cases b <;> exact ⟨_, _, rfl, by decide⟩
  case hinj => decide

theorem entityKind_values : Values entityKind := by
  apply Values.of_words
  case hwords => intro kind; cases kind <;> exact not_closes_of_all (by decide)
  case hopens => intro kind; cases kind <;> exact ⟨_, _, rfl, by decide⟩
  case hinj => intro a b; cases a <;> cases b <;> decide

theorem entityState_values : Values entityState := by
  apply Values.of_words
  case hwords => intro state; cases state <;> exact not_closes_of_all (by decide)
  case hopens => intro state; cases state <;> exact ⟨_, _, rfl, by decide⟩
  case hinj => intro a b; cases a <;> cases b <;> decide

theorem despawnReason_values : Values despawnReason := by
  apply Values.of_words
  case hwords => intro reason; cases reason <;> exact not_closes_of_all (by decide)
  case hopens => intro reason; cases reason <;> exact ⟨_, _, rfl, by decide⟩
  case hinj => intro a b; cases a <;> cases b <;> decide

/-!
## Strings
-/

def escaped : List Char :=
  '"' :: '\\' :: (List.range 32).map Char.ofNat

theorem escape_of_not_escaped {c : Char} (h : c ∉ escaped) :
    escape c = String.utf8EncodeChar c := by
  have hlow : 32 ≤ c.toNat := by
    apply Nat.not_lt.mp
    intro hlt
    apply h
    have hchar : Char.ofNat c.toNat = c := Char.ofNat_toNat c
    rw [← hchar]
    exact List.mem_cons_of_mem _ (List.mem_cons_of_mem _
      (List.mem_map_of_mem (List.mem_range.mpr hlt)))
  have hquote : c ≠ '"' := fun heq => h (heq ▸ List.mem_cons_self)
  have hslash : c ≠ '\\' :=
    fun heq => h (heq ▸ List.mem_cons_of_mem _ List.mem_cons_self)
  have hcontrol : forall d : Char, d.toNat < 32 -> c ≠ d := by
    intro d hd heq
    rw [heq] at hlow
    omega
  unfold escape
  rw [if_neg hquote, if_neg hslash, if_neg (hcontrol '\n' (by decide)),
    if_neg (hcontrol '\r' (by decide)), if_neg (hcontrol '\t' (by decide)),
    if_neg (by omega), if_neg (by omega), if_neg (by omega)]

theorem escape_escaped {c : Char} (hc : c ∈ escaped) : (escape c).head? = some 92 := by
  have hall : escaped.all (fun c => (escape c).head? == some 92) = true := by decide +kernel
  exact eq_of_beq (List.all_eq_true.mp hall c hc)

theorem escape_inj_escaped {c d : Char} (hc : c ∈ escaped) (hd : d ∈ escaped)
    (h : escape c <+: escape d) : c = d := by
  have hall : escaped.all (fun c => escaped.all (fun d =>
      !(escape c).isPrefixOf (escape d) || c == d)) = true := by
    decide +kernel
  have hpair := List.all_eq_true.mp (List.all_eq_true.mp hall c hc) d hd
  rw [List.isPrefixOf_iff_prefix.mpr h] at hpair
  exact eq_of_beq hpair

theorem eq_of_first {b : UInt8} {c d : Char} (hc : String.utf8EncodeChar c = [b])
    (hd : (String.utf8EncodeChar d).head? = some b) : c = d := by
  apply utf8EncodeChar_inj_of_prefix
  rcases List.head?_eq_some_iff.mp hd with ⟨more, hmore⟩
  rw [hc, hmore]
  exact ⟨more, rfl⟩

theorem escape_opens (c : Char) : exists (first : UInt8) (more : Bytes),
    escape c = first :: more ∧ first ≠ 34 ∧ (first = 92 <-> c ∈ escaped) := by
  by_cases hmem : c ∈ escaped
  · rcases List.head?_eq_some_iff.mp (escape_escaped hmem) with ⟨more, hmore⟩
    exact ⟨92, more, hmore, by decide, iff_of_true rfl hmem⟩
  · rw [escape_of_not_escaped hmem]
    cases hcode : String.utf8EncodeChar c with
    | nil => exact absurd hcode String.utf8EncodeChar_ne_nil
    | cons first more =>
        have hhead : (String.utf8EncodeChar c).head? = some first := by
          rw [hcode]
          rfl
        refine ⟨first, more, rfl, ?_, iff_of_false ?_ hmem⟩
        · intro hquote
          rw [hquote] at hhead
          have heq : '"' = c := eq_of_first rfl hhead
          exact hmem (heq ▸ List.mem_cons_self)
        · intro hslash
          rw [hslash] at hhead
          have heq : '\\' = c := eq_of_first rfl hhead
          exact hmem (heq ▸ List.mem_cons_of_mem _ List.mem_cons_self)

theorem escape_selfDelimiting : SelfDelimiting (fun _ : Char => True) escape := by
  apply SelfDelimiting.of_prefix
  intro c d _ _ hprefix
  have hsame : c ∈ escaped <-> d ∈ escaped := by
    rcases escape_opens c with ⟨first, more, hc, _, hfirst⟩
    rcases escape_opens d with ⟨first', more', hd, _, hfirst'⟩
    rw [hc, hd, List.cons_prefix_cons] at hprefix
    rw [← hfirst, ← hfirst', hprefix.left]
  by_cases hc : c ∈ escaped
  · exact escape_inj_escaped hc (hsame.mp hc) hprefix
  · rw [escape_of_not_escaped hc, escape_of_not_escaped (mt hsame.mpr hc)] at hprefix
    exact utf8EncodeChar_inj_of_prefix hprefix

theorem string_selfDelimiting : SelfDelimiting (fun _ : String => True) string := by
  have hescaped := escape_selfDelimiting.terminated 34 (by
    intro c _
    rcases escape_opens c with ⟨first, more, hcode, hne, _⟩
    exact ⟨first, more, hcode, hne⟩)
  intro s t _ _ rest rest' heq
  unfold string at heq
  rw [List.append_assoc [34], List.append_assoc [34], List.append_assoc [34],
    List.append_assoc [34]] at heq
  rcases hescaped s.toList t.toList (fun _ _ => trivial) (fun _ _ => trivial) rest rest'
    (List.append_cancel_left heq) with ⟨hchars, hrest⟩
  exact ⟨String.toList_inj.mp hchars, hrest⟩

theorem string_values : Values string :=
  ⟨string_selfDelimiting.delimited Follows, fun _ => ⟨34, _, rfl, by decide⟩⟩

/-!
## Objects
-/

def closing : List (String × Bytes) -> Bytes
  | [] => [125]
  | (key, value) :: rest => 44 :: (quoted key ++ (58 :: (value ++ closing rest)))

theorem follows_closing (fields : List (String × Bytes)) (rest : Bytes) :
    Follows (closing fields ++ rest) := by
  cases fields with
  | nil => exact follows_cons (Or.inr (Or.inr rfl)) rest
  | cons field fields => exact follows_cons (Or.inl rfl) _

theorem object_cons (key : String) (value : Bytes) (fields : List (String × Bytes)) :
    object ((key, value) :: fields) =
      123 :: (quoted key ++ (58 :: (value ++ closing fields))) := by
  induction fields generalizing key value with
  | nil => simp [object, commaSeparated, closing]
  | cons field fields ih =>
      have hrest := ih field.1 field.2
      simp only [object, List.map_cons, commaSeparated, closing, List.append_assoc,
        List.cons_append, List.nil_append, List.cons.injEq, true_and] at hrest ⊢
      rw [← hrest]

/-- The fields that a type of values has under fixed keys. -/
def Fields {α : Type} (fields : α -> List (String × Bytes)) : Prop :=
  SelfDelimiting (fun _ : α => True) (fun a => closing (fields a))

namespace Fields

variable {α γ : Type} {print : α -> Bytes} {fields : γ -> List (String × Bytes)}

theorem nil : Fields (fun _ : Unit => []) :=
  fun _ _ _ _ _ _ heq => ⟨rfl, List.append_cancel_left heq⟩

theorem cons (key : String) (h : Readable print) (hfields : Fields fields) :
    Fields (fun x : α × γ => (key, print x.1) :: fields x.2) := by
  rintro ⟨a, c⟩ ⟨b, d⟩ _ _ rest rest' heq
  simp only [closing, List.cons_append, List.append_assoc, List.cons.injEq,
    true_and, List.append_cancel_left_eq] at heq
  rcases h a b trivial trivial _ _ (follows_closing _ _) (follows_closing _ _) heq with
    ⟨hfirst, hlater⟩
  rcases hfields c d trivial trivial rest rest' hlater with ⟨hrest, hend⟩
  exact ⟨by rw [hfirst, hrest], hend⟩

theorem object (h : Fields fields) :
    SelfDelimiting (fun _ : γ => True) (fun c => object (fields c)) := by
  intro c d _ _ rest rest' heq
  change Json.object (fields c) ++ rest = Json.object (fields d) ++ rest' at heq
  apply h c d trivial trivial rest rest'
  show closing (fields c) ++ rest = closing (fields d) ++ rest'
  cases hc : fields c with
  | nil =>
      cases hd : fields d with
      | nil =>
          rw [hc, hd] at heq
          exact List.cons.inj heq |>.right
      | cons field' more' =>
          rw [hc, hd, object_cons] at heq
          exact absurd (List.cons.inj (List.cons.inj heq).right).left (by decide)
  | cons field more =>
      cases hd : fields d with
      | nil =>
          rw [hc, hd, object_cons] at heq
          exact absurd (List.cons.inj (List.cons.inj heq).right).left (by decide)
      | cons field' more' =>
          rw [hc, hd, object_cons, object_cons] at heq
          exact congrArg (List.cons 44) (List.cons.inj heq).right

theorem record (h : Fields fields) (tuple : α -> γ)
    (htuple : forall a b : α, tuple a = tuple b -> a = b) :
    Values (fun a => Json.object (fields (tuple a))) :=
  ⟨(h.object.comap htuple).delimited Follows, fun _ => ⟨123, _, rfl, by decide⟩⟩

theorem variant (h : Fields fields) (tag : String) (c d : γ) {rest rest' : Bytes}
    (heq : variant tag (fields c) ++ rest = variant tag (fields d) ++ rest') :
    c = d ∧ rest = rest' := by
  have htagged := (cons tag (h.object.delimited Follows) nil).object
  rcases htagged (c, ()) (d, ()) trivial trivial rest rest' heq with ⟨hsame, hrest⟩
  exact ⟨(Prod.mk.inj hsame).left, hrest⟩

end Fields

section Variants

variable {α β γ δ ε : Type} {first : α -> Bytes} {second : β -> Bytes} {third : γ -> Bytes}
  {fourth : δ -> Bytes} {tag j k l m : String} {a a' : α} {b b' : β} {c c' : γ} {d d' : δ}
  {rest rest' : Bytes}

theorem variant_one (make : α -> ε) (hfirst : Readable first)
    (heq : variant tag [(j, first a)] ++ rest = variant tag [(j, first a')] ++ rest') :
    make a = make a' ∧ rest = rest' := by
  have hfields := Fields.cons j hfirst Fields.nil
  rcases hfields.variant tag (a, ()) (a', ()) heq with ⟨htuple, hrest⟩
  cases htuple
  exact ⟨rfl, hrest⟩

theorem variant_two (make : α -> β -> ε) (hfirst : Readable first) (hsecond : Readable second)
    (heq : variant tag [(j, first a), (k, second b)] ++ rest =
      variant tag [(j, first a'), (k, second b')] ++ rest') :
    make a b = make a' b' ∧ rest = rest' := by
  have hfields := Fields.cons j hfirst (Fields.cons k hsecond Fields.nil)
  rcases hfields.variant tag (a, b, ()) (a', b', ()) heq with ⟨htuple, hrest⟩
  cases htuple
  exact ⟨rfl, hrest⟩

theorem variant_three (make : α -> β -> γ -> ε) (hfirst : Readable first)
    (hsecond : Readable second) (hthird : Readable third)
    (heq : variant tag [(j, first a), (k, second b), (l, third c)] ++ rest =
      variant tag [(j, first a'), (k, second b'), (l, third c')] ++ rest') :
    make a b c = make a' b' c' ∧ rest = rest' := by
  have hfields := Fields.cons j hfirst (Fields.cons k hsecond
    (Fields.cons l hthird Fields.nil))
  rcases hfields.variant tag (a, b, c, ()) (a', b', c', ()) heq with ⟨htuple, hrest⟩
  cases htuple
  exact ⟨rfl, hrest⟩

theorem variant_four (make : α -> β -> γ -> δ -> ε) (hfirst : Readable first)
    (hsecond : Readable second) (hthird : Readable third) (hfourth : Readable fourth)
    (heq : variant tag [(j, first a), (k, second b), (l, third c), (m, fourth d)] ++ rest =
      variant tag [(j, first a'), (k, second b'), (l, third c'), (m, fourth d')] ++ rest') :
    make a b c d = make a' b' c' d' ∧ rest = rest' := by
  have hfields :=
    Fields.cons j hfirst (Fields.cons k hsecond
      (Fields.cons l hthird (Fields.cons m hfourth Fields.nil)))
  rcases hfields.variant tag (a, b, c, d, ()) (a', b', c', d', ()) heq with ⟨htuple, hrest⟩
  cases htuple
  exact ⟨rfl, hrest⟩

end Variants

theorem Values.tagged {α : Type} {print : α -> Bytes} (h : Values print) (tag : String)
    {a b : α} {rest rest' : Bytes}
    (heq : object [(tag, print a)] ++ rest = object [(tag, print b)] ++ rest') :
    a = b ∧ rest = rest' := by
  have htagged := (Fields.cons tag h.readable Fields.nil).object
  rcases htagged (a, ()) (b, ()) trivial trivial rest rest' heq with ⟨hsame, hrest⟩
  exact ⟨(Prod.mk.inj hsame).left, hrest⟩

theorem tag_eq {tag tag' : String} {value value' rest rest' : Bytes}
    (heq : object [(tag, value)] ++ rest = object [(tag', value')] ++ rest')
    (htag : quoted tag = string tag) (htag' : quoted tag' = string tag') : tag = tag' := by
  rw [object_cons, object_cons, htag, htag', List.cons_append, List.cons_append,
    List.append_assoc, List.append_assoc] at heq
  exact (string_selfDelimiting tag tag' trivial trivial _ _ (List.cons.inj heq).right).left

/-!
## Lists
-/

def ending : List Bytes -> Bytes
  | [] => [93]
  | item :: rest => 44 :: (item ++ ending rest)

theorem follows_ending (items : List Bytes) (rest : Bytes) : Follows (ending items ++ rest) := by
  cases items with
  | nil => exact follows_cons (Or.inr (Or.inl rfl)) rest
  | cons item items => exact follows_cons (Or.inl rfl) _

theorem array_cons (item : Bytes) (items : List Bytes) :
    array (item :: items) = 91 :: (item ++ ending items) := by
  induction items generalizing item with
  | nil => simp [array, commaSeparated, ending]
  | cons next items ih =>
      have hrest := ih next
      simp only [array, commaSeparated, ending, List.append_assoc, List.cons_append,
        List.nil_append, List.cons.injEq, true_and] at hrest ⊢
      rw [← hrest]

section Lists

variable {α : Type} {print : α -> Bytes}

theorem ending_selfDelimiting (h : Readable print) :
    SelfDelimiting (fun _ : List α => True) (fun xs => ending (xs.map print)) := by
  intro xs
  induction xs with
  | nil =>
      intro ys _ _ rest rest' heq
      cases ys with
      | nil => exact ⟨rfl, List.append_cancel_left heq⟩
      | cons y ys => exact absurd (List.cons.inj heq).left (by decide)
  | cons x xs ih =>
      intro ys _ _ rest rest' heq
      cases ys with
      | nil => exact absurd (List.cons.inj heq).left (by decide)
      | cons y ys =>
          simp only [List.map_cons, ending, List.cons_append, List.append_assoc,
            List.cons.injEq, true_and] at heq
          rcases h x y trivial trivial _ _ (follows_ending _ _) (follows_ending _ _) heq with
            ⟨hhead, hlater⟩
          rcases ih ys trivial trivial rest rest' hlater with ⟨htail, hrest⟩
          exact ⟨by rw [hhead, htail], hrest⟩

theorem array_selfDelimiting (h : Values print) :
    SelfDelimiting (fun _ : List α => True) (fun xs => array (xs.map print)) := by
  -- an empty list ends where another one has its first item
  have hopens : forall (a : α) (rest rest' : Bytes), print a ++ rest ≠ 93 :: rest' := by
    intro a rest rest' heq
    rcases h.opens a with ⟨first, more, hfirst, hne, _⟩
    rw [hfirst] at heq
    exact hne (List.cons.inj heq).left
  intro xs ys _ _ rest rest' heq
  change array (xs.map print) ++ rest = array (ys.map print) ++ rest' at heq
  cases xs with
  | nil =>
      cases ys with
      | nil => exact ⟨rfl, List.append_cancel_left heq⟩
      | cons y ys =>
          rw [List.map_cons, array_cons, List.cons_append, List.append_assoc] at heq
          exact absurd (List.cons.inj heq).right.symm (hopens y _ _)
  | cons x xs =>
      cases ys with
      | nil =>
          rw [List.map_cons, array_cons, List.cons_append, List.append_assoc] at heq
          exact absurd (List.cons.inj heq).right (hopens x _ _)
      | cons y ys =>
          apply ending_selfDelimiting h.readable (x :: xs) (y :: ys) trivial trivial rest rest'
          rw [List.map_cons, List.map_cons, array_cons, array_cons] at heq
          exact congrArg (List.cons 44) (List.cons.inj heq).right

end Lists

/-!
## Primitive types
-/

theorem uint64_values : Values (fun n : UInt64 => number n.toNat) :=
  number_values.comap UInt64.toNat fun _ _ h => UInt64.toNat_inj.mp h

theorem uint32_values : Values (fun n : UInt32 => number n.toNat) :=
  number_values.comap UInt32.toNat fun _ _ h => UInt32.toNat_inj.mp h

theorem int32_values : Values (fun n : Int32 => integer n.toInt) :=
  integer_values.comap Int32.toInt fun _ _ h => Int32.toInt_inj.mp h

theorem int64_values : Values (fun n : Int64 => integer n.toInt) :=
  integer_values.comap Int64.toInt fun _ _ h => Int64.toInt_inj.mp h

theorem tick_values : Values tick :=
  uint64_values.comap Tick.val fun _ _ h => congrArg Tick.mk h

theorem seed_values : Values (fun seed : RngSeed => number seed.val.toNat) :=
  uint64_values.comap RngSeed.val fun _ _ h => congrArg RngSeed.mk h

theorem entityId_values : Values entityId :=
  uint64_values.comap EntityId.val fun _ _ h => congrArg EntityId.mk h

theorem zoneId_values : Values zoneId :=
  uint32_values.comap ZoneId.val fun _ _ h => congrArg ZoneId.mk h

theorem eventId_values : Values eventId :=
  uint64_values.comap EventId.val fun _ _ h => congrArg EventId.mk h

theorem simTime_values : Values simTime :=
  (Fields.cons "units" uint64_values.readable Fields.nil).record
    (fun t : SimTime => (t.units, ())) (by
      rintro ⟨⟩ ⟨⟩ ⟨⟩
      rfl)

theorem coordinates_values : Values (fun pos : Position =>
    object [("x", integer pos.x.toInt), ("y", integer pos.y.toInt),
      ("z", integer pos.z.toInt)]) :=
  (Fields.cons "x" int32_values.readable (Fields.cons "y" int32_values.readable
    (Fields.cons "z" int32_values.readable Fields.nil))).record
    (fun pos : Position => (pos.x, pos.y, pos.z, ())) (by
      rintro ⟨⟩ ⟨⟩ ⟨⟩
      rfl)

theorem position_values : Values position :=
  (Fields.cons "zone" zoneId_values.readable
    (Fields.cons "pos" coordinates_values.readable Fields.nil)).record
    (fun p : WorldPos => (p.zone, p.pos, ())) (by
      rintro ⟨⟩ ⟨⟩ ⟨⟩
      rfl)

theorem properties_values : Values properties :=
  (Fields.cons "name" string_values.nullable (Fields.cons "amount" uint32_values.nullable
    (Fields.cons "health" uint32_values.nullable Fields.nil))).record
    (fun p : EntityProperties => (p.name, p.amount, p.health, ())) (by
      rintro ⟨⟩ ⟨⟩ ⟨⟩
      rfl)

/-!
## Events
-/

theorem propertyValue_readable : Readable
    (fun v : {v : PropertyValue // v.isFloat = false} => (propertyValue v.val).getD []) := by
  rintro ⟨a, ha⟩ ⟨b, hb⟩ _ _ rest rest' _ _ heq
  have hsame : a = b ∧ rest = rest' := by
    cases a with
    | none =>
        cases b with
        | none => exact ⟨rfl, List.append_cancel_left heq⟩
        | float _ => cases hb
        | _ => exact absurd (List.cons.inj heq).left (by decide)
    | float _ => cases ha
    | int v =>
        cases b with
        | none => exact absurd (List.cons.inj heq).left (by decide)
        | float _ => cases hb
        | int w => exact (int64_values.tagged "Int" heq).imp_left (congrArg PropertyValue.int)
        | _ => exact absurd (tag_eq heq (by decide) (by decide)) (by decide)
    | uint v =>
        cases b with
        | none => exact absurd (List.cons.inj heq).left (by decide)
        | float _ => cases hb
        | uint w => exact (uint64_values.tagged "UInt" heq).imp_left (congrArg PropertyValue.uint)
        | _ => exact absurd (tag_eq heq (by decide) (by decide)) (by decide)
    | bool v =>
        cases b with
        | none => exact absurd (List.cons.inj heq).left (by decide)
        | float _ => cases hb
        | bool w => exact (boolean_values.tagged "Bool" heq).imp_left (congrArg PropertyValue.bool)
        | _ => exact absurd (tag_eq heq (by decide) (by decide)) (by decide)
    | string v =>
        cases b with
        | none => exact absurd (List.cons.inj heq).left (by decide)
        | float _ => cases hb
        | string w =>
            exact (string_values.tagged "String" heq).imp_left (congrArg PropertyValue.string)
        | _ => exact absurd (tag_eq heq (by decide) (by decide)) (by decide)
  exact ⟨Subtype.ext hsame.left, hsame.right⟩

def eventText : EventData -> Bytes
  | .entityPropertyChanged id property oldValue newValue =>
      variant "EntityPropertyChanged"
        [("entity_id", entityId id), ("property", string property),
          ("old_value", (propertyValue oldValue).getD []),
          ("new_value", (propertyValue newValue).getD [])]
  | data => (eventData data).getD []

theorem propertyValue_exists {value : PropertyValue} (h : value.isFloat = false) :
    exists text : Bytes, propertyValue value = some text := by
  cases value with
  | float _ => cases h
  | _ => exact ⟨_, rfl⟩

theorem eventData_eq {data : EventData} (h : data.holdsFloat = false) :
    eventData data = some (eventText data) := by
  cases data with
  | entityPropertyChanged id property oldValue newValue =>
      rcases Bool.or_eq_false_iff.mp h with ⟨hold, hnew⟩
      rcases propertyValue_exists hold with ⟨oldText, hold⟩
      rcases propertyValue_exists hnew with ⟨newText, hnew⟩
      simp only [eventData, eventText, hold, hnew]
      rfl
  | _ => rfl

def eventTag : EventData -> String
  | .worldCreated .. => "WorldCreated"
  | .worldLoaded .. => "WorldLoaded"
  | .worldSaved .. => "WorldSaved"
  | .tickProcessed .. => "TickProcessed"
  | .zoneCreated .. => "ZoneCreated"
  | .zoneLoaded .. => "ZoneLoaded"
  | .zoneUnloaded .. => "ZoneUnloaded"
  | .entitySpawned .. => "EntitySpawned"
  | .entityDespawned .. => "EntityDespawned"
  | .entityMoved .. => "EntityMoved"
  | .entityStateChanged .. => "EntityStateChanged"
  | .entityPropertyChanged .. => "EntityPropertyChanged"
  | .resourceDepleted .. => "ResourceDepleted"
  | .entityDegraded .. => "EntityDegraded"

theorem eventText_tagged (data : EventData) :
    exists value : Bytes, eventText data = object [(eventTag data, value)] := by
  cases data <;> exact ⟨_, rfl⟩

theorem eventTag_plain (data : EventData) : quoted (eventTag data) = string (eventTag data) := by
  cases data <;> simp only [eventTag] <;> decide

theorem eventTag_eq {a b : EventData} {rest rest' : Bytes}
    (heq : eventText a ++ rest = eventText b ++ rest') : eventTag a = eventTag b := by
  rcases eventText_tagged a with ⟨value, ha⟩
  rcases eventText_tagged b with ⟨value', hb⟩
  rw [ha, hb] at heq
  exact tag_eq heq (eventTag_plain a) (eventTag_plain b)

/-- Under the tag of an event are its fields, and other events have other tags. -/
theorem eventText_readable : Readable
    (fun data : {data : EventData // data.holdsFloat = false} => eventText data.val) := by
  rintro ⟨a, ha⟩ ⟨b, hb⟩ _ _ rest rest' _ _ heq
  have htag := eventTag_eq heq
  have hsame : a = b ∧ rest = rest' := by
    cases a with
    | worldCreated w n s =>
        cases b with
        | worldCreated w' n' s' =>
            exact variant_three EventData.worldCreated string_values.readable
              string_values.readable seed_values.readable heq
        | _ => simp [eventTag] at htag
    | worldLoaded w t =>
        cases b with
        | worldLoaded w' t' =>
            exact variant_two EventData.worldLoaded string_values.readable
              tick_values.readable heq
        | _ => simp [eventTag] at htag
    | worldSaved t =>
        cases b with
        | worldSaved t' =>
            exact variant_one EventData.worldSaved tick_values.readable heq
        | _ => simp [eventTag] at htag
    | tickProcessed t u p r =>
        cases b with
        | tickProcessed t' u' p' r' =>
            exact variant_four EventData.tickProcessed tick_values.readable
              simTime_values.readable uint32_values.readable uint64_values.nullable heq
        | _ => simp [eventTag] at htag
    | zoneCreated z n =>
        cases b with
        | zoneCreated z' n' =>
            exact variant_two EventData.zoneCreated zoneId_values.readable
              string_values.nullable heq
        | _ => simp [eventTag] at htag
    | zoneLoaded z =>
        cases b with
        | zoneLoaded z' =>
            exact variant_one EventData.zoneLoaded zoneId_values.readable heq
        | _ => simp [eventTag] at htag
    | zoneUnloaded z =>
        cases b with
        | zoneUnloaded z' =>
            exact variant_one EventData.zoneUnloaded zoneId_values.readable heq
        | _ => simp [eventTag] at htag
    | entitySpawned e k p q =>
        cases b with
        | entitySpawned e' k' p' q' =>
            exact variant_four EventData.entitySpawned entityId_values.readable
              entityKind_values.readable position_values.readable properties_values.readable heq
        | _ => simp [eventTag] at htag
    | entityDespawned e r =>
        cases b with
        | entityDespawned e' r' =>
            exact variant_two EventData.entityDespawned entityId_values.readable
              despawnReason_values.readable heq
        | _ => simp [eventTag] at htag
    | entityMoved e s t =>
        cases b with
        | entityMoved e' s' t' =>
            exact variant_three EventData.entityMoved entityId_values.readable
              position_values.readable position_values.readable heq
        | _ => simp [eventTag] at htag
    | entityStateChanged e s t =>
        cases b with
        | entityStateChanged e' s' t' =>
            exact variant_three EventData.entityStateChanged entityId_values.readable
              entityState_values.readable entityState_values.readable heq
        | _ => simp [eventTag] at htag
    | entityPropertyChanged e p v w =>
        cases b with
        | entityPropertyChanged e' p' v' w' =>
            rcases Bool.or_eq_false_iff.mp ha with ⟨hv, hw⟩
            rcases Bool.or_eq_false_iff.mp hb with ⟨hv', hw'⟩
            have hfields := Fields.cons "entity_id" entityId_values.readable
              (Fields.cons "property" string_values.readable
              (Fields.cons "old_value" propertyValue_readable
              (Fields.cons "new_value" propertyValue_readable Fields.nil)))
            rcases hfields.variant "EntityPropertyChanged" (e, p, ⟨v, hv⟩, ⟨w, hw⟩, ())
              (e', p', ⟨v', hv'⟩, ⟨w', hw'⟩, ()) heq with ⟨htuple, hrest⟩
            cases htuple
            exact ⟨rfl, hrest⟩
        | _ => simp [eventTag] at htag
    | resourceDepleted e a r =>
        cases b with
        | resourceDepleted e' a' r' =>
            exact variant_three EventData.resourceDepleted entityId_values.readable
              uint32_values.readable uint32_values.readable heq
        | _ => simp [eventTag] at htag
    | entityDegraded e o n =>
        cases b with
        | entityDegraded e' o' n' =>
            exact variant_three EventData.entityDegraded entityId_values.readable
              uint32_values.readable uint32_values.readable heq
        | _ => simp [eventTag] at htag
  exact ⟨Subtype.ext hsame.left, hsame.right⟩

def eventObject (e : SimEvent) : Bytes :=
  object [("event_id", eventId e.eventId), ("tick", tick e.tick), ("data", eventText e.data)]

theorem event_eq {e : SimEvent} (h : e.data.holdsFloat = false) :
    event e = some (eventObject e) := by
  rw [event, eventData_eq h]
  rfl

theorem event_values :
    Values (fun e : {e : SimEvent // e.data.holdsFloat = false} => eventObject e.val) :=
  (Fields.cons "event_id" eventId_values.readable (Fields.cons "tick" tick_values.readable
    (Fields.cons "data" eventText_readable Fields.nil))).record
    (fun e : {e : SimEvent // e.data.holdsFloat = false} =>
      (e.val.eventId, e.val.tick, ⟨e.val.data, e.property⟩, ())) (by
      rintro ⟨⟨⟩, _⟩ ⟨⟨⟩, _⟩ ⟨⟩
      rfl)

/-!
## Batches
-/

def Floatless (events : List SimEvent) : Prop :=
  forall e : SimEvent, e ∈ events -> e.data.holdsFloat = false

theorem batch_eq {events : List SimEvent} (h : Floatless events) :
    batch events = some (object [("type", quoted "Batch"),
      ("data", object [("events", array (events.map eventObject))])]) := by
  have hitems : events.mapM event = some (events.map eventObject) := by
    induction events with
    | nil => rfl
    | cons e rest ih =>
        have hrest := ih fun e' hmem => h e' (List.mem_cons_of_mem _ hmem)
        rw [List.mapM_cons, event_eq (h e List.mem_cons_self), hrest]
        rfl
  rw [batch, hitems]
  rfl

theorem events_values : Values
    (fun events : List {e : SimEvent // e.data.holdsFloat = false} =>
      object [("events", array (events.map fun e => eventObject e.val))]) :=
  (Fields.cons "events" ((array_selfDelimiting event_values).delimited Follows)
    Fields.nil).record (fun events => (events, ())) fun _ _ h => (Prod.mk.inj h).left

theorem batch_values : Values
    (fun events : List {e : SimEvent // e.data.holdsFloat = false} =>
      object [("type", quoted "Batch"),
        ("data", object [("events", array (events.map fun e => eventObject e.val))])]) := by
  have htype : Readable (fun _ : Unit => quoted "Batch") :=
    fun _ _ _ _ _ _ _ _ heq => ⟨rfl, List.append_cancel_left heq⟩
  exact (Fields.cons "type" htype (Fields.cons "data" events_values.readable
    Fields.nil)).record
    (fun events : List {e : SimEvent // e.data.holdsFloat = false} => ((), events, ()))
    fun _ _ h => (Prod.mk.inj (Prod.mk.inj h).right).left

/-- Batches without floats that have the same text are the same. -/
theorem batch_inj {left right : List SimEvent} (hleft : Floatless left)
    (hright : Floatless right) (h : batch left = batch right) : left = right := by
  have hplain : forall events : List SimEvent, Floatless events ->
      exists plain : List {e : SimEvent // e.data.holdsFloat = false},
        plain.map Subtype.val = events :=
    fun events hevents => ⟨events.attachWith _ hevents, List.attachWith_map_subtype_val hevents⟩
  rcases hplain left hleft with ⟨left', heq⟩
  subst heq
  rcases hplain right hright with ⟨right', heq⟩
  subst heq
  rw [batch_eq hleft, batch_eq hright, Option.some.injEq, List.map_map, List.map_map] at h
  have htexts := congrArg (fun text => text ++ []) h
  rw [(batch_values.readable left' right' trivial trivial [] [] nofun nofun htexts).left]

end Json

end Seej
