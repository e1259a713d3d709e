import DefUse.Json.Value
import Mathlib.Data.List.TakeWhile
import Mathlib.Logic.Function.Basic

/-!
# The text of JSON values

The text of a value tells where it ends, as long as no digit follows it: a string ends at the first quote that
is not escaped, and brackets enclose items that each tell where they end. So two values with the same text are
equal, whatever strings they hold. The main statement is proved along the values, from what stands behind one
item to what stands behind a list of them.
-/

namespace DefUse.Json

/-! ## Escaped characters -/

def hexDigitValue (c : Char) : Nat := if c.isDigit then c.toNat - 48 else c.toNat - 87

/-- The character that an escaped text starts with, and the text behind it. -/
def unescape : List Char → Option (Char × List Char)
  | '\\' :: 'b' :: rest => some ('\x08', rest)
  | '\\' :: 't' :: rest => some ('\t', rest)
  | '\\' :: 'n' :: rest => some ('\n', rest)
  | '\\' :: 'f' :: rest => some ('\x0c', rest)
  | '\\' :: 'r' :: rest => some ('\r', rest)
  | '\\' :: 'u' :: _ :: _ :: high :: low :: rest =>
    some (Char.ofNat (16 * hexDigitValue high + hexDigitValue low), rest)
  | '\\' :: c :: rest => some (c, rest)
  | c :: rest => some (c, rest)
  | [] => none

theorem ofNat_hexDigitValue : ∀ n < 0x20,
    Char.ofNat (16 * hexDigitValue (Nat.digitChar (n / 16)) + hexDigitValue (Nat.digitChar (n % 16))) =
      Char.ofNat n := by
  decide

theorem unescape_escapedChar (c : Char) (rest : List Char) :
    unescape (escapedChar c ++ rest) = some (c, rest) := by
  unfold escapedChar
  split_ifs with hquote hslash hback htab hfeed hform hreturn hcontrol
  · rw [hquote]; rfl
  · rw [hslash]; rfl
  · rw [hback]; rfl
  · rw [htab]; rfl
  · rw [hfeed]; rfl
  · rw [hform]; rfl
  · rw [hreturn]; rfl
  · have hvalue := ofNat_hexDigitValue c.toNat hcontrol
    rw [Char.ofNat_toNat] at hvalue
    simp [unescape, hexDigits2, hvalue]
  · simp [unescape, hslash]

theorem escapedChar_append_inj {c d : Char} {rest other : List Char}
    (h : escapedChar c ++ rest = escapedChar d ++ other) : c = d ∧ rest = other := by
  have hread := congrArg unescape h
  rw [unescape_escapedChar, unescape_escapedChar] at hread
  exact Prod.mk.inj (Option.some.inj hread)

/-- No escaped character starts with the quote that ends a string. -/
theorem escapedChar_append_ne_quote (c : Char) (rest other : List Char) :
    escapedChar c ++ rest ≠ '"' :: other := by
  unfold escapedChar
  split_ifs with hquote <;> simp [*]

theorem flatMap_escapedChar_append_inj {first second rest other : List Char}
    (h : first.flatMap escapedChar ++ '"' :: rest = second.flatMap escapedChar ++ '"' :: other) :
    first = second ∧ rest = other := by
  induction first generalizing second with
  | nil =>
    cases second with
    | nil => exact ⟨rfl, (List.cons.inj h).2⟩
    | cons d second =>
      rw [List.flatMap_cons, List.append_assoc] at h
      exact absurd h.symm (escapedChar_append_ne_quote d _ _)
  | cons c first ih =>
    rw [List.flatMap_cons, List.append_assoc] at h
    cases second with
    | nil => exact absurd h (escapedChar_append_ne_quote c _ _)
    | cons d second =>
      rw [List.flatMap_cons, List.append_assoc] at h
      obtain ⟨rfl, htail⟩ := escapedChar_append_inj h
      obtain ⟨rfl, hrest⟩ := ih htail
      exact ⟨rfl, hrest⟩

theorem escaped_append_inj {first second : String} {rest other : List Char}
    (h : escaped first ++ rest = escaped second ++ other) : first = second ∧ rest = other := by
  simp only [escaped, List.cons_append, List.append_assoc, List.cons.injEq, true_and, List.nil_append] at h
  obtain ⟨htext, hrest⟩ := flatMap_escapedChar_append_inj h
  exact ⟨String.toList_inj.1 htext, hrest⟩

/-! ## Texts that tell where they end -/

/-- A numeral ends before the text. -/
def EndsNumeral (rest : List Char) : Prop := ∀ c, rest.head? = some c → c.isDigit = false

theorem endsNumeral_cons {c : Char} (hc : c.isDigit = false) (rest : List Char) :
    EndsNumeral (c :: rest) := by
  intro d hd
  rwa [← Option.some.inj hd]

theorem toDigits_append_inj {first second : Nat} {rest other : List Char} (hrest : EndsNumeral rest)
    (hother : EndsNumeral other) (h : Nat.toDigits 10 first ++ rest = Nat.toDigits 10 second ++ other) :
    first = second ∧ rest = other := by
  have hdigits (n : Nat) : ∀ c ∈ Nat.toDigits 10 n, c.isDigit = true :=
    fun c hc ↦ Nat.isDigit_of_mem_toDigits (by decide) (by decide) hc
  have hstop {text : List Char} (htext : EndsNumeral text) : text.takeWhile Char.isDigit = [] := by
    cases text with
    | nil => rfl
    | cons c text => rw [List.takeWhile_cons_of_neg (by simp [htext c rfl])]
  have htake := congrArg (List.takeWhile Char.isDigit) h
  rw [List.takeWhile_append_of_pos (hdigits first), List.takeWhile_append_of_pos (hdigits second),
    hstop hrest, hstop hother, List.append_nil, List.append_nil] at htake
  have hvalue : first = second :=
    calc first = Nat.ofDigitChars 10 (Nat.toDigits 10 first) 0 := Nat.ofDigitChars_ten_toDigits.symm
      _ = Nat.ofDigitChars 10 (Nat.toDigits 10 second) 0 := by rw [htake]
      _ = second := Nat.ofDigitChars_ten_toDigits
  subst hvalue
  exact ⟨rfl, List.append_cancel_left h⟩

/-- Behind the writing of an item, whatever item stands there can be told, and what follows it. -/
def SelfDelimiting {α : Type} (write : α → List Char) (item : α) : Prop :=
  ∀ other rest otherRest, EndsNumeral rest → EndsNumeral otherRest →
    write item ++ rest = write other ++ otherRest → item = other ∧ rest = otherRest

/-- Items between brackets, which stand on one line if there are none. -/
def enclosed {α : Type} (opening closing : Char) (depth : Nat) (write : α → List Char) : List α → List Char
  | [] => [opening, closing]
  | first :: rest =>
    opening :: write first ++ rest.flatMap (fun item ↦ ',' :: write item) ++ newLine depth ++ [closing]

section Lists

variable {α : Type} {write : α → List Char}

theorem endsNumeral_flatMap_append (items : List α) (rest : List Char) :
    EndsNumeral (items.flatMap (fun item ↦ ',' :: write item) ++ '\n' :: rest) := by
  cases items with
  | nil => exact endsNumeral_cons rfl rest
  | cons item items => exact endsNumeral_cons rfl _

/-- Items behind commas tell where they end if each of them does. -/
theorem flatMap_comma_append_inj {first second : List α} {rest other : List Char}
    (hfirst : ∀ item ∈ first, SelfDelimiting write item)
    (h : first.flatMap (fun item ↦ ',' :: write item) ++ '\n' :: rest =
      second.flatMap (fun item ↦ ',' :: write item) ++ '\n' :: other) :
    first = second ∧ rest = other := by
  induction first generalizing second with
  | nil =>
    cases second with
    | nil => exact ⟨rfl, (List.cons.inj h).2⟩
    | cons item second => exact absurd (List.cons.inj h).1 (by decide)
  | cons item first ih =>
    cases second with
    | nil => exact absurd (List.cons.inj h).1 (by decide)
    | cons item' second =>
      rw [List.forall_mem_cons] at hfirst
      simp only [List.flatMap_cons, List.cons_append, List.append_assoc] at h
      obtain ⟨rfl, htail⟩ := hfirst.1 item' _ _ (endsNumeral_flatMap_append first rest)
        (endsNumeral_flatMap_append second other) (List.cons.inj h).2
      obtain ⟨rfl, hrest⟩ := ih hfirst.2 htail
      exact ⟨rfl, hrest⟩

theorem enclosed_append_inj {opening closing : Char} {depth : Nat} {first second : List α}
    {rest other : List Char} (hclosing : closing ≠ '\n') (hwrite : ∀ item, (write item).head? = some '\n')
    (hfirst : ∀ item ∈ first, SelfDelimiting write item)
    (h : enclosed opening closing depth write first ++ rest =
      enclosed opening closing depth write second ++ other) :
    first = second ∧ rest = other := by
  have hbreak (item : α) (tail tail' : List Char) : closing :: tail ≠ write item ++ tail' := by
    intro heq
    have hhead := congrArg List.head? heq
    rw [List.head?_append, hwrite, Option.some_or] at hhead
    exact hclosing (Option.some.inj hhead)
  cases first with
  | nil =>
    cases second with
    | nil => exact ⟨rfl, List.append_cancel_left h⟩
    | cons item second =>
      simp only [enclosed, List.cons_append, List.append_assoc] at h
      exact absurd (List.cons.inj h).2 (hbreak item _ _)
  | cons item first =>
    cases second with
    | nil =>
      simp only [enclosed, List.cons_append, List.append_assoc] at h
      exact absurd (List.cons.inj h).2.symm (hbreak item _ _)
    | cons item' second =>
      rw [List.forall_mem_cons] at hfirst
      simp only [enclosed, newLine, List.cons_append, List.append_assoc, List.nil_append] at h
      obtain ⟨rfl, htail⟩ := hfirst.1 item' _ _ (endsNumeral_flatMap_append first _)
        (endsNumeral_flatMap_append second _) (List.cons.inj h).2
      obtain ⟨rfl, hrest⟩ := flatMap_comma_append_inj hfirst.2 htail
      exact ⟨rfl, (List.cons.inj (List.append_cancel_left hrest)).2⟩

end Lists

/-! ## Values -/

namespace Value

def writeItem (depth : Nat) (value : Value) : List Char := newLine depth ++ value.chars depth

def writeMember (depth : Nat) (member : String × Value) : List Char :=
  newLine depth ++ escaped member.1 ++ ':' :: ' ' :: member.2.chars depth

theorem itemChars_cons (depth : Nat) (first : Value) (rest : List Value) :
    itemChars depth (first :: rest) =
      writeItem depth first ++ rest.flatMap (fun item ↦ ',' :: writeItem depth item) := by
  induction rest generalizing first with
  | nil => simp [itemChars, writeItem]
  | cons next rest ih => simp only [itemChars, ih, List.flatMap_cons, writeItem, List.cons_append]

theorem memberChars_cons (depth : Nat) (first : String × Value) (rest : List (String × Value)) :
    memberChars depth (first :: rest) =
      writeMember depth first ++ rest.flatMap (fun member ↦ ',' :: writeMember depth member) := by
  induction rest generalizing first with
  | nil => simp [memberChars, writeMember]
  | cons next rest ih =>
    simp only [memberChars, ih, List.flatMap_cons, writeMember, List.append_assoc, List.cons_append]

theorem chars_array (depth : Nat) (items : List Value) :
    (array items).chars depth = enclosed '[' ']' depth (writeItem (depth + 1)) items := by
  cases items with
  | nil => rfl
  | cons first rest => simp only [chars, itemChars_cons, enclosed, List.cons_append]

theorem chars_object (depth : Nat) (members : List (String × Value)) :
    (object members).chars depth = enclosed '\x7b' '\x7d' depth (writeMember (depth + 1)) members := by
  cases members with
  | nil => rfl
  | cons first rest => simp only [chars, memberChars_cons, enclosed, List.cons_append]

/-- What holds of a value as soon as it holds of the values inside holds of every value. -/
theorem induction {motive : Value → Prop} (null : motive .null) (boolean : ∀ value, motive (.boolean value))
    (number : ∀ value, motive (.number value)) (string : ∀ text, motive (.string text))
    (array : ∀ items, (∀ item ∈ items, motive item) → motive (.array items))
    (object : ∀ members, (∀ member ∈ members, motive member.2) → motive (.object members)) :
    ∀ value, motive value
  | .null => null
  | .boolean value => boolean value
  | .number value => number value
  | .string text => string text
  | .array items => array items fun item _ ↦ induction null boolean number string array object item
  | .object members =>
    object members fun member _ ↦ induction null boolean number string array object member.2
termination_by value => sizeOf value
decreasing_by
  · have hitem := List.sizeOf_lt_of_mem ‹item ∈ items›
    rw [Value.array.sizeOf_spec]
    omega
  · have hmember := List.sizeOf_lt_of_mem ‹member ∈ members›
    rw [Prod.mk.sizeOf_spec] at hmember
    rw [Value.object.sizeOf_spec]
    omega

inductive Kind where
  | null
  | boolean
  | number
  | string
  | array
  | object

def kind : Value → Kind
  | .null => .null
  | .boolean _ => .boolean
  | .number _ => .number
  | .string _ => .string
  | .array _ => .array
  | .object _ => .object

/-- The kind of the values whose text starts with a character. -/
def Kind.ofChar (c : Char) : Kind :=
  if c.isDigit then .number
  else if c = '"' then .string
  else if c = '[' then .array
  else if c = '\x7b' then .object
  else if c = 'n' then .null
  else .boolean

theorem exists_chars_eq_cons (depth : Nat) (value : Value) :
    ∃ c rest, value.chars depth = c :: rest ∧ Kind.ofChar c = value.kind := by
  cases value with
  | null => exact ⟨_, _, rfl, rfl⟩
  | boolean value => cases value <;> exact ⟨_, _, rfl, rfl⟩
  | number value =>
    cases hdigits : Nat.toDigits 10 value with
    | nil => exact absurd hdigits Nat.toDigits_ne_nil
    | cons c rest =>
      have hdigit : c.isDigit = true :=
        Nat.isDigit_of_mem_toDigits (by decide) (by decide) (hdigits ▸ List.mem_cons_self)
      exact ⟨c, rest, by rw [chars, hdigits], by rw [Kind.ofChar, if_pos hdigit, kind]⟩
  | string text => exact ⟨_, _, rfl, rfl⟩
  | array items => cases items <;> exact ⟨_, _, rfl, rfl⟩
  | object members => cases members <;> exact ⟨_, _, rfl, rfl⟩

/-- The first character of a text tells the kind of the value. -/
theorem kind_eq_of_chars_append {depth : Nat} {value other : Value} {rest otherRest : List Char}
    (h : value.chars depth ++ rest = other.chars depth ++ otherRest) : value.kind = other.kind := by
  obtain ⟨c, tail, htext, hkind⟩ := exists_chars_eq_cons depth value
  obtain ⟨d, otherTail, hotherText, hotherKind⟩ := exists_chars_eq_cons depth other
  rw [htext, hotherText] at h
  rw [← hkind, ← hotherKind, (List.cons.inj h).1]

theorem selfDelimiting_writeItem {depth : Nat} {value : Value} (h : SelfDelimiting (chars depth) value) :
    SelfDelimiting (writeItem depth) value := by
  intro other rest otherRest hrest hotherRest heq
  simp only [writeItem, List.append_assoc] at heq
  exact h other rest otherRest hrest hotherRest (List.append_cancel_left heq)

theorem selfDelimiting_writeMember {depth : Nat} {member : String × Value}
    (h : SelfDelimiting (chars depth) member.2) : SelfDelimiting (writeMember depth) member := by
  intro other rest otherRest hrest hotherRest heq
  simp only [writeMember, List.append_assoc, List.cons_append] at heq
  obtain ⟨hname, hvalue⟩ := escaped_append_inj (List.append_cancel_left heq)
  obtain ⟨hmember, hends⟩ :=
    h other.2 rest otherRest hrest hotherRest (List.cons.inj (List.cons.inj hvalue).2).2
  exact ⟨Prod.ext hname hmember, hends⟩

/-- The text of a value tells the value, and where it ends. -/
theorem selfDelimiting_chars (value : Value) (depth : Nat) : SelfDelimiting (chars depth) value := by
  -- The other value is of the same kind, since the texts start alike. The depth grows with every bracket.
  induction value using Value.induction generalizing depth with
  | null =>
    intro other rest otherRest hrest hotherRest h
    cases other with
    | null => exact ⟨rfl, List.append_cancel_left h⟩
    | _ => cases kind_eq_of_chars_append h
  | boolean value =>
    intro other rest otherRest hrest hotherRest h
    cases other with
    | boolean value' => cases value <;> cases value' <;> simp_all [chars, boolChars]
    | _ => cases kind_eq_of_chars_append h
  | number value =>
    intro other rest otherRest hrest hotherRest h
    cases other with
    | number value' =>
      obtain ⟨rfl, hends⟩ := toDigits_append_inj hrest hotherRest h
      exact ⟨rfl, hends⟩
    | _ => cases kind_eq_of_chars_append h
  | string text =>
    intro other rest otherRest hrest hotherRest h
    cases other with
    | string text' =>
      obtain ⟨rfl, hends⟩ := escaped_append_inj h
      exact ⟨rfl, hends⟩
    | _ => cases kind_eq_of_chars_append h
  | array items ih =>
    intro other rest otherRest hrest hotherRest h
    cases other with
    | array items' =>
      rw [chars_array, chars_array] at h
      obtain ⟨rfl, hends⟩ := enclosed_append_inj (by decide) (fun _ ↦ rfl)
        (fun item hitem ↦ selfDelimiting_writeItem (ih item hitem (depth + 1))) h
      exact ⟨rfl, hends⟩
    | _ => cases kind_eq_of_chars_append h
  | object members ih =>
    intro other rest otherRest hrest hotherRest h
    cases other with
    | object members' =>
      rw [chars_object, chars_object] at h
      obtain ⟨rfl, hends⟩ := enclosed_append_inj (by decide) (fun _ ↦ rfl)
        (fun member hmember ↦ selfDelimiting_writeMember (ih member hmember (depth + 1))) h
      exact ⟨rfl, hends⟩
    | _ => cases kind_eq_of_chars_append h

/-- Values with the same text are equal. -/
theorem pretty_injective : Function.Injective pretty := by
  intro value other h
  have hchars : value.chars 0 ++ [] = other.chars 0 ++ [] := by
    rw [List.append_nil, List.append_nil]
    exact String.ofList_injective h
  have hends : EndsNumeral [] := by
    intro c hc
    cases hc
  exact (selfDelimiting_chars value 0 other [] [] hends hends hchars).1

end Value

end DefUse.Json
