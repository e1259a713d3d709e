import DefUse.Json.Cursor

/-!
# String literals and words in a JSON text

A string literal is read for its text, or skipped when nobody asks for it. Skipping does not pair
surrogates, and places a control character before rather than after it.
-/

namespace DefUse.Json

/-- Whether what stands in the text is wanted or passed over. -/
inductive Mode where
  | read
  | skip
deriving DecidableEq

/-- The place after the bytes of a word. -/
def word : List UInt8 → Cursor → Except Fault Cursor
  | [], cursor => .ok cursor
  | expected :: others, cursor =>
    match cursor.rest with
    | [] => .error (cursor.fault .endInValue)
    | byte :: _ =>
      if byte = expected then word others (cursor.skip 1)
      else .error ((cursor.skip 1).fault .expectedIdent)

theorem size_word_le {expected : List UInt8} {cursor next : Cursor}
    (h : word expected cursor = .ok next) : next.size ≤ cursor.size := by
  induction expected generalizing cursor with
  | nil =>
    simp only [word, Except.ok.injEq] at h
    simp [h]
  | cons byte others ih =>
    unfold word at h
    split at h
    · simp at h
    · split at h
      · have := ih h
        simp only [Cursor.size_skip] at this
        omega
      · simp at h

/-- The words of the language behind their first letter. -/
def nullTail : List UInt8 := [0x75, 0x6C, 0x6C]

def trueTail : List UInt8 := [0x72, 0x75, 0x65]

def falseTail : List UInt8 := [0x61, 0x6C, 0x73, 0x65]

def hexValue (byte : UInt8) : Option Nat :=
  if 0x30 ≤ byte && byte ≤ 0x39 then some (byte.toNat - 0x30)
  else if 0x41 ≤ byte && byte ≤ 0x46 then some (byte.toNat - 0x41 + 10)
  else if 0x61 ≤ byte && byte ≤ 0x66 then some (byte.toNat - 0x61 + 10)
  else none

/-- A number of four digits in base sixteen. All four bytes are consumed before they are judged. -/
def fourDigits (cursor : Cursor) : Except Fault (Taken Nat cursor.size) :=
  match h : cursor.rest with
  | first :: second :: third :: fourth :: _ =>
    match hexValue first, hexValue second, hexValue third, hexValue fourth with
    | some a, some b, some c, some d =>
      .ok ⟨((a * 16 + b) * 16 + c) * 16 + d, cursor.skip 4, Cursor.size_skip_lt h 3⟩
    | _, _, _, _ => .error ((cursor.skip 4).fault .invalidEscape)
  | _ => .error ((cursor.skip cursor.size).fault .endInString)

/-- The place after an expected byte of a surrogate pair. -/
def pairByte (expected : UInt8) (cursor : Cursor) : Except Fault (Taken Unit cursor.size) :=
  match h : cursor.rest with
  | [] => .error (cursor.fault .endInString)
  | byte :: _ =>
    if byte = expected then .ok ⟨(), cursor.skip 1, Cursor.size_skip_lt h 0⟩
    else .error ((cursor.skip 1).fault .unexpectedEscapeEnd)

def isHighSurrogate (unit : Nat) : Bool := 0xD800 ≤ unit && unit ≤ 0xDBFF

def isLowSurrogate (unit : Nat) : Bool := 0xDC00 ≤ unit && unit ≤ 0xDFFF

def codePointBytes (code : Nat) : List UInt8 := (String.singleton (Char.ofNat code)).toUTF8.toList

/-- The character of an escape by code point, after its letter. A high surrogate needs a low one in
an escape of its own right behind it. -/
def codePointEscape (mode : Mode) (cursor : Cursor) : Except Fault (Taken (List UInt8) cursor.size) := do
  let unit ← fourDigits cursor
  match mode with
  | .skip => .ok (unit.map fun _ ↦ [])
  | .read =>
    if isLowSurrogate unit.value then .error (unit.next.fault .loneSurrogate)
    else if isHighSurrogate unit.value then
      let slash ← pairByte 0x5C unit.next
      let letter ← pairByte 0x75 slash.next
      let second ← fourDigits letter.next
      if isLowSurrogate second.value then
        let code := (unit.value - 0xD800) * 0x400 + (second.value - 0xDC00) + 0x10000
        .ok ⟨codePointBytes code, second.next, by
          have := second.size_lt
          have := letter.size_lt
          have := slash.size_lt
          have := unit.size_lt
          omega⟩
      else .error (second.next.fault .loneSurrogate)
    else .ok (unit.map codePointBytes)

/-- The bytes that an escape stands for, after its backslash. -/
def escape (mode : Mode) (cursor : Cursor) : Except Fault (Taken (List UInt8) cursor.size) :=
  match h : cursor.rest with
  | [] => .error (cursor.fault .endInString)
  | letter :: _ =>
    let stands (byte : UInt8) : Except Fault (Taken (List UInt8) cursor.size) :=
      .ok ⟨[byte], cursor.skip 1, Cursor.size_skip_lt h 0⟩
    match letter.toNat with
    | 0x22 => stands 0x22
    | 0x5C => stands 0x5C
    | 0x2F => stands 0x2F
    | 0x62 => stands 0x08
    | 0x66 => stands 0x0C
    | 0x6E => stands 0x0A
    | 0x72 => stands 0x0D
    | 0x74 => stands 0x09
    | 0x75 => (codePointEscape mode (cursor.skip 1)).map (Taken.widen (by simp))
    | _ => .error ((cursor.skip 1).fault .invalidEscape)

def textOfBytes (bytes : List UInt8) : String :=
  (String.fromUTF8? ⟨bytes.toArray⟩).getD ""

/-- The rest of a string literal, up to its closing quote. What was read of it before stands in
front, last byte first. -/
def literal (mode : Mode) (limit : Nat) (before : List UInt8) (cursor : Cursor)
    (within : cursor.size ≤ limit) : Except Fault (Taken String limit) :=
  match h : cursor.rest with
  | [] => .error (cursor.fault .endInString)
  | byte :: _ =>
    have smaller : (cursor.skip 1).size < cursor.size := Cursor.size_skip_lt h 0
    if byte = 0x22 then
      .ok ⟨textOfBytes before.reverse, cursor.skip 1, Nat.lt_of_lt_of_le smaller within⟩
    else if byte = 0x5C then
      match escape mode (cursor.skip 1) with
      | .error fault => .error fault
      | .ok escaped =>
        have := escaped.size_lt
        literal mode limit (escaped.value.reverse ++ before) escaped.next (by omega)
    else if byte < 0x20 then
      match mode with
      | .read => .error ((cursor.skip 1).fault .controlCharacter)
      | .skip => .error (cursor.fault .controlCharacter)
    else literal mode limit (byte :: before) (cursor.skip 1) (by omega)
termination_by cursor.size

/-- A string literal after its opening quote. -/
def stringTail (mode : Mode) : Reader String := .ofLimited fun limit ↦ literal mode limit []

end DefUse.Json
