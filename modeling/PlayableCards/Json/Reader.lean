import PlayableCards.Json.Numeral

/-!
# Reading a JSON value

A machine that takes one byte at a time. Its stack holds the containers around the value being
read; beside it stands what is expected next, or the token being read. Reading a text is reading
its bytes in turn, so what a text does is fixed by its prefixes.
-/

namespace PlayableCards

/-- A container that waits for a value. -/
inductive Frame where
  /-- A list after the items given, last first. -/
  | item (items : List Json)
  /-- An object after the members given, before the value of `key`. -/
  | member (members : Members) (key : String)

/-- How far an escape in a string has come. Surrogate pairs take two escapes. -/
inductive Escape where
  | none
  | backslash
  /-- Hexadecimal digits seen, last first, after the first half of a pair if there is one. -/
  | unit (high : Option Nat) (digits : Bytes)
  /-- Past the first half of a pair. -/
  | pair (high : Nat)
  /-- Past the first half of a pair and a backslash. -/
  | pairBackslash (high : Nat)

inductive Role where
  | value
  /-- A key after the members given. -/
  | key (members : Members)

inductive Reader where
  | value (stack : List Frame)
  | firstItem (stack : List Frame)
  | nextItem (stack : List Frame) (items : List Json)
  | afterItem (stack : List Frame) (items : List Json)
  | firstKey (stack : List Frame)
  | nextKey (stack : List Frame) (members : Members)
  | afterKey (stack : List Frame) (members : Members) (key : String)
  | afterMember (stack : List Frame) (members : Members)
  /-- Within a string whose bytes so far are given, last first. -/
  | string (stack : List Frame) (role : Role) (content : Bytes) (escape : Escape)
  /-- Within a word that stands for `v`, before the bytes given. -/
  | word (stack : List Frame) (rest : Bytes) (v : Json)
  | numeral (stack : List Frame) (n : Numeral)

namespace Reader

/-- The most containers that may be open at once. -/
def maxDepth : Nat := 127

def start : Reader := value []

inductive Step where
  | next (r : Reader)
  | done (v : Json)
  /-- The value ended before the byte. -/
  | past (v : Json)
  /-- The text is at fault, as it stands `back` bytes before the end of this byte. -/
  | fault (cause : Cause) (back : Nat)

/-- Hands a value to the innermost container. -/
def deliver (stack : List Frame) (v : Json) : Step :=
  match stack with
  | [] => .done v
  | .item items :: stack => .next (afterItem stack (v :: items))
  | .member members key :: stack => .next (afterMember stack (members.insert key v))

def openWith (stack : List Frame) (r : Reader) : Step :=
  if stack.length < maxDepth then .next r else .fault .tooDeep 0

def startValue (stack : List Frame) (b : UInt8) : Step :=
  if b = Ascii.quote then .next (string stack .value [] .none)
  else if b = Ascii.openBracket then openWith stack (firstItem stack)
  else if b = Ascii.openBrace then openWith stack (firstKey stack)
  else if b = 0x6E then .next (word stack [0x75, 0x6C, 0x6C] .null)
  else if b = 0x74 then .next (word stack [0x72, 0x75, 0x65] (.bool true))
  else if b = 0x66 then .next (word stack [0x61, 0x6C, 0x73, 0x65] (.bool false))
  else match Numeral.start? b with
    | some n => .next (numeral stack n)
    | none => .fault .expectedValue 0

def startKey (stack : List Frame) (members : Members) (b : UInt8) : Step :=
  if b = Ascii.quote then .next (string stack (.key members) [] .none)
  else .fault .keyNotString 0

def stepAfterItem (stack : List Frame) (items : List Json) (b : UInt8) : Step :=
  if Ascii.isSpace b then .next (afterItem stack items)
  else if b = Ascii.comma then .next (nextItem stack items)
  else if b = Ascii.closeBracket then deliver stack (.array items.reverse)
  else .fault .expectedItemEnd 0

def stepAfterMember (stack : List Frame) (members : Members) (b : UInt8) : Step :=
  if Ascii.isSpace b then .next (afterMember stack members)
  else if b = Ascii.comma then .next (nextKey stack members)
  else if b = Ascii.closeBrace then deliver stack (.object members)
  else .fault .expectedMemberEnd 0

/-- A number is complete and `b` lies past it. Its range is checked first, as of the byte before;
within a container `b` is then taken in turn. -/
def pastNumber (stack : List Frame) (n : Numeral) (b : UInt8) : Step :=
  match n.finish with
  | .error cause => .fault cause 1
  | .ok number =>
    match stack with
    | [] => .past (.number number)
    | .item items :: stack => stepAfterItem stack (.number number :: items) b
    | .member members key :: stack =>
      stepAfterMember stack (members.insert key (.number number)) b

/-- The end of a string. Its content is checked to be UTF-8 only here; the fault then stands at
the first invalid byte counted from the end. -/
def closeString (stack : List Frame) (role : Role) (content : Bytes) : Step :=
  match Utf8.decode content.reverse with
  | .error left => .fault .invalidCodePoint left
  | .ok s =>
    match role with
    | .value => deliver stack (.string s)
    | .key members => .next (afterKey stack members s)

def escaped? (b : UInt8) : Option UInt8 :=
  if b = Ascii.quote || b = Ascii.backslash || b = Ascii.slash then some b
  else if b = 0x62 then some 0x08
  else if b = 0x66 then some 0x0C
  else if b = 0x6E then some Ascii.lineFeed
  else if b = 0x72 then some Ascii.carriageReturn
  else if b = 0x74 then some Ascii.tab
  else none

def isHigh (unit : Nat) : Bool := 0xD800 ≤ unit && unit < 0xDC00

def isLow (unit : Nat) : Bool := 0xDC00 ≤ unit && unit < 0xE000

/-- The value of hexadecimal digits, last first. -/
def unitValue? : Bytes → Option Nat
  | [] => some 0
  | b :: bytes => do
    let more ← unitValue? bytes
    let digit ← Ascii.hexValue? b
    return more * 16 + digit

def pushChar (content : Bytes) (n : Nat) : Bytes :=
  (String.utf8EncodeChar (Char.ofNat n)).reverse ++ content

/-- A complete code unit: a character, or half of one. -/
def takeUnit (stack : List Frame) (role : Role) (content : Bytes) (high : Option Nat) (unit : Nat) :
    Step :=
  match high with
  | some high =>
    if isLow unit then
      .next (string stack role
        (pushChar content (0x10000 + (high - 0xD800) * 0x400 + (unit - 0xDC00))) .none)
    else .fault .loneSurrogate 0
  | none =>
    if isLow unit then .fault .loneSurrogate 0
    else if isHigh unit then .next (string stack role content (.pair unit))
    else .next (string stack role (pushChar content unit) .none)

/-- A byte within a string. The four digits of a code unit are taken as they come and judged
together. -/
def stepString (stack : List Frame) (role : Role) (content : Bytes) (escape : Escape) (b : UInt8) :
    Step :=
  match escape with
  | .none =>
    if b = Ascii.quote then closeString stack role content
    else if b = Ascii.backslash then .next (string stack role content .backslash)
    else if b < 0x20 then .fault .controlCharacter 0
    else .next (string stack role (b :: content) .none)
  | .backslash =>
    if b = 0x75 then .next (string stack role content (.unit none []))
    else match escaped? b with
      | some c => .next (string stack role (c :: content) .none)
      | none => .fault .invalidEscape 0
  | .unit high digits =>
    if digits.length < 3 then .next (string stack role content (.unit high (b :: digits)))
    else match unitValue? (b :: digits) with
      | some unit => takeUnit stack role content high unit
      | none => .fault .invalidEscape 0
  | .pair high =>
    if b = Ascii.backslash then .next (string stack role content (.pairBackslash high))
    else .fault .missingSurrogate 0
  | .pairBackslash high =>
    if b = 0x75 then .next (string stack role content (.unit (some high) []))
    else .fault .missingSurrogate 0

def stepWord (stack : List Frame) (rest : Bytes) (v : Json) (b : UInt8) : Step :=
  match rest with
  | [] => .fault .expectedWord 0
  | expected :: rest =>
    if b = expected then if rest.isEmpty then deliver stack v else .next (word stack rest v)
    else .fault .expectedWord 0

def step (r : Reader) (b : UInt8) : Step :=
  match r with
  | value stack => if Ascii.isSpace b then .next r else startValue stack b
  | firstItem stack =>
    if Ascii.isSpace b then .next r
    else if b = Ascii.closeBracket then deliver stack (.array [])
    else startValue (.item [] :: stack) b
  | nextItem stack items =>
    if Ascii.isSpace b then .next r
    else if b = Ascii.closeBracket then .fault .trailingComma 0
    else startValue (.item items :: stack) b
  | afterItem stack items => stepAfterItem stack items b
  | firstKey stack =>
    if Ascii.isSpace b then .next r
    else if b = Ascii.closeBrace then deliver stack (.object [])
    else startKey stack [] b
  | nextKey stack members =>
    if Ascii.isSpace b then .next r
    else if b = Ascii.closeBrace then .fault .trailingComma 0
    else startKey stack members b
  | afterKey stack members key =>
    if Ascii.isSpace b then .next r
    else if b = Ascii.colon then .next (value (.member members key :: stack))
    else .fault .expectedColon 0
  | afterMember stack members => stepAfterMember stack members b
  | string stack role content escape => stepString stack role content escape b
  | word stack rest v => stepWord stack rest v b
  | numeral stack n =>
    match n.step b with
    | .next n => .next (numeral stack n)
    | .past => pastNumber stack n b
    | .fault cause => .fault cause 0

def unfinishedIn (stack : List Frame) : Cause :=
  match stack with
  | [] => .unfinishedValue
  | .item _ :: _ => .unfinishedList
  | .member _ _ :: _ => .unfinishedObject

/-- The end of the text. Only a number may end here, and only outside of containers. -/
def finish : Reader → Except Cause Json
  | value _ | nextItem _ _ | nextKey _ _ | word _ _ _ => .error .unfinishedValue
  | firstItem _ | afterItem _ _ => .error .unfinishedList
  | firstKey _ | afterKey _ _ _ | afterMember _ _ => .error .unfinishedObject
  | string _ _ _ _ => .error .unfinishedString
  | numeral stack n =>
    match n.finish with
    | .error cause => .error cause
    | .ok number => if stack.isEmpty then .ok (.number number) else .error (unfinishedIn stack)

inductive Outcome where
  | value (v : Json) (used : Nat) (rest : Bytes)
  | fault (cause : Cause) (index : Nat)

def run (r : Reader) (index : Nat) : Bytes → Outcome
  | [] =>
    match r.finish with
    | .ok v => .value v index []
    | .error cause => .fault cause index
  | b :: rest =>
    match r.step b with
    | .next r => run r (index + 1) rest
    | .done v => .value v (index + 1) rest
    | .past v => .value v index (b :: rest)
    | .fault cause back => .fault cause (index + 1 - back)

theorem run_value {r : Reader} {index : Nat} {bs : Bytes} {v : Json} {used : Nat} {rest : Bytes}
    (h : run r index bs = .value v used rest) :
    ∃ taken, bs = taken ++ rest ∧ used = index + taken.length := by
  induction bs generalizing r index with
  | nil =>
    unfold run at h
    split at h
    · simp only [Outcome.value.injEq] at h
      exact ⟨[], by simp [h.2.2], by simp [h.2.1]⟩
    · simp at h
  | cons b bs ih =>
    unfold run at h
    split at h
    · obtain ⟨taken, rfl, rfl⟩ := ih h
      exact ⟨b :: taken, rfl, by simp only [List.length_cons]; omega⟩
    · simp only [Outcome.value.injEq] at h
      exact ⟨[b], by simp [h.2.2], by simp [h.2.1]⟩
    · simp only [Outcome.value.injEq] at h
      exact ⟨[], by simp [h.2.2], by simp [h.2.1]⟩
    · simp at h

theorem startValue_ne_past (stack : List Frame) (b : UInt8) (v : Json) :
    startValue stack b ≠ .past v := by
  unfold startValue openWith
  repeat' split
  all_goals simp

def read (text : Bytes) : Outcome := run start 0 text

theorem read_value_pos {text : Bytes} {v : Json} {used : Nat} {rest : Bytes}
    (h : read text = .value v used rest) : 0 < used := by
  unfold read start at h
  cases text with
  | nil => simp [run, finish] at h
  | cons b bs =>
    unfold run at h
    split at h
    · obtain ⟨taken, -, rfl⟩ := run_value h
      omega
    · simp only [Outcome.value.injEq] at h
      omega
    · rename_i hstep
      simp only [step] at hstep
      split at hstep
      · simp at hstep
      · exact absurd hstep (startValue_ne_past _ _ _)
    · simp at h

theorem read_value {text : Bytes} {v : Json} {used : Nat} {rest : Bytes}
    (h : read text = .value v used rest) : used + rest.length = text.length := by
  obtain ⟨taken, rfl, rfl⟩ := run_value h
  simp

end Reader

end PlayableCards
