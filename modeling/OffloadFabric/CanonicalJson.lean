import OffloadFabric.Json
import OffloadFabric.JsonGrammar

/-!
Both renderings of a JSON value. The compact one is a document that stands for
the value, so two values with one rendering are equal; the one over several
lines differs from it in space outside strings.
-/
namespace OffloadFabric

namespace JsonValue

mutual

/-- What a value says; a number says the same whether it is kept signed or unsigned. -/
def meaning : JsonValue → Json
  | null => .null
  | bool value => .bool value
  | unsigned value => .number value.toNat
  | signed value => .number value.toInt
  | text value => .text value
  | array elements => .array (meanings elements)
  | object members => .object (memberMeanings members)

def meanings : List JsonValue → List Json
  | [] => []
  | element :: rest => meaning element :: meanings rest

def memberMeanings : List (Bytes × JsonValue) → List (Bytes × Json)
  | [] => []
  | (key, value) :: rest => (key, meaning value) :: memberMeanings rest

end

/-- A line break and the indentation of the next line. -/
def newLine (indent : Nat) : Bytes := 10 :: List.replicate indent 32

mutual

/-- Rendering over several lines, each two spaces deeper than what it is in. -/
def dumpPrettyAt (indent : Nat) : JsonValue → Bytes
  | array elements =>
    if elements.isEmpty then [91, 93]
    else [91] ++ prettyElements (indent + 2) elements ++ newLine indent ++ [93]
  | object members =>
    if members.isEmpty then [123, 125]
    else [123] ++ prettyMembers (indent + 2) members ++ newLine indent ++ [125]
  | null => dump null
  | bool value => dump (bool value)
  | unsigned value => dump (unsigned value)
  | signed value => dump (signed value)
  | text value => dump (text value)

def prettyElements (indent : Nat) : List JsonValue → Bytes
  | [] => []
  | [element] => newLine indent ++ dumpPrettyAt indent element
  | element :: rest =>
    newLine indent ++ dumpPrettyAt indent element ++ [44] ++ prettyElements indent rest

def prettyMembers (indent : Nat) : List (Bytes × JsonValue) → Bytes
  | [] => []
  | [(key, value)] => newLine indent ++ escaped key ++ [58, 32] ++ dumpPrettyAt indent value
  | (key, value) :: rest =>
    newLine indent ++ escaped key ++ [58, 32] ++ dumpPrettyAt indent value ++ [44] ++
      prettyMembers indent rest

end

def dumpPretty (value : JsonValue) : Bytes := dumpPrettyAt 0 value

/-- ASCII without its control bytes. -/
def Printable (text : Bytes) : Prop := ∀ c ∈ text, 0x20 ≤ c ∧ c ≤ 0x7E

instance (text : Bytes) : Decidable (Printable text) := List.decidableBAll _ text

@[simp] theorem printable_nil : Printable [] := by simp [Printable]

@[simp] theorem printable_cons {c : UInt8} {text : Bytes} :
    Printable (c :: text) ↔ (0x20 ≤ c ∧ c ≤ 0x7E) ∧ Printable text := by
  simp [Printable]

@[simp] theorem printable_append {text more : Bytes} :
    Printable (text ++ more) ↔ Printable text ∧ Printable more := List.forall_mem_append

theorem digit_of_isDigit {c : Char} (h : c.isDigit) :
    Json.IsDigit (UInt8.ofNat c.toNat) ∧ (UInt8.ofNat c.toNat).toNat = c.toNat := by
  obtain ⟨hlow, hhigh⟩ : 48 ≤ c.toNat ∧ c.toNat ≤ 57 := Char.isDigit_iff_toNat.1 h
  have hval : (UInt8.ofNat c.toNat).toNat = c.toNat := by
    rw [UInt8.toNat_ofNat']
    omega
  refine ⟨⟨?_, ?_⟩, hval⟩
  · rw [UInt8.le_iff_toNat_le, hval]
    exact hlow
  · rw [UInt8.le_iff_toNat_le, hval]
    exact hhigh

theorem digitsValue_map (digits : List Char) (start : Nat) (h : ∀ c ∈ digits, c.isDigit) :
    (digits.map fun c => UInt8.ofNat c.toNat).foldl (fun n c => 10 * n + (c.toNat - 48)) start =
      Nat.ofDigitChars 10 digits start := by
  induction digits generalizing start with
  | nil => rfl
  | cons c rest ih =>
    rw [List.map_cons, List.foldl_cons, ih _ fun d hd => h d (by simp [hd]),
      Nat.ofDigitChars_cons, (digit_of_isDigit (h c (by simp))).2]
    rfl

/-- Only zero is written with a zero in front. -/
theorem head_toDigits {n : Nat} (h : (Nat.toDigits 10 n).head? = some '0') : n = 0 := by
  induction n using Nat.strong_induction_on with
  | _ n ih =>
    by_cases hn : n < 10
    · rw [Nat.toDigits_of_lt_base hn, List.head?_cons, Option.some.injEq] at h
      exact Nat.digitChar_eq_zero.1 h
    · rw [Nat.toDigits_of_base_le (by omega) (by omega),
        List.head?_append_of_ne_nil _ Nat.toDigits_ne_nil] at h
      have hzero := ih (n / 10) (by omega) h
      omega

theorem digits_decimalDigits (n : Nat) : Json.Digits n (decimalDigits n) := by
  have hdigit : ∀ c ∈ Nat.toDigits 10 n, c.isDigit := fun c hc =>
    Nat.isDigit_of_mem_toDigits (by decide) (by decide) hc
  refine ⟨?_, ?_, ?_, ?_⟩
  · simp [decimalDigits, Nat.toDigits_ne_nil]
  · intro c hc
    obtain ⟨d, hd, rfl⟩ := List.mem_map.1 hc
    exact (digit_of_isDigit (hdigit d hd)).1
  · intro hhead
    obtain ⟨d, hd, hd48⟩ : ∃ d, (Nat.toDigits 10 n).head? = some d ∧ UInt8.ofNat d.toNat = 48 := by
      simpa [decimalDigits, List.head?_map] using hhead
    have hzero : d = '0' := by
      have htoNat := (digit_of_isDigit (hdigit d (List.mem_of_mem_head? hd))).2
      rw [hd48] at htoNat
      exact Char.toNat_inj.1 htoNat.symm
    subst hzero
    obtain rfl := head_toDigits hd
    rfl
  · rw [Json.digitsValue, decimalDigits, digitsValue_map _ _ hdigit,
      Nat.ofDigitChars_toDigits (by decide) (by decide)]

theorem printable_decimalDigits (n : Nat) : Printable (decimalDigits n) := by
  intro c hc
  obtain ⟨hlow, hhigh⟩ := (digits_decimalDigits n).digits c hc
  exact ⟨UInt8.le_trans (by decide) hlow, UInt8.le_trans hhigh (by decide)⟩

/-- The two halves of a byte as hexadecimal digits. -/
theorem hexDigit_halves (c : UInt8) :
    let high := (c >>> 4) &&& 0x0F
    let low := c &&& 0x0F
    Json.hexValue (hexDigit high) = some high ∧ Json.hexValue (hexDigit low) = some low ∧
      high <<< 4 ||| low = c ∧ Printable [hexDigit high, hexDigit low] := by
  have all : ∀ n : Fin 256,
      let c := UInt8.ofFin n
      let high := (c >>> 4) &&& 0x0F
      let low := c &&& 0x0F
      Json.hexValue (hexDigit high) = some high ∧ Json.hexValue (hexDigit low) = some low ∧
        high <<< 4 ||| low = c ∧ (0x20 ≤ hexDigit high ∧ hexDigit high ≤ 0x7E) ∧
          0x20 ≤ hexDigit low ∧ hexDigit low ≤ 0x7E := by
    decide +kernel
  obtain ⟨hhigh, hlow, hc, hprint, hprint'⟩ := all c.toFin
  exact ⟨hhigh, hlow, hc, by simpa using ⟨hprint, hprint'⟩⟩

/-- A byte is written with a letter after a backslash, as two hexadecimal digits, or as itself. -/
theorem escapeByte_cases (c : UInt8) :
    (∃ letter, escapeByte c = [92, letter] ∧ Json.escapes letter = some c ∧ Printable [letter]) ∨
    escapeByte c = [92, 117, 48, 48, hexDigit ((c >>> 4) &&& 0x0F), hexDigit (c &&& 0x0F)] ∨
    (escapeByte c = [c] ∧ 0x20 ≤ c ∧ c < 0x7F ∧ c ≠ 34 ∧ c ≠ 92) := by
  have named : ∀ byte letter, escapeByte byte = [92, letter] → Json.escapes letter = some byte →
      Printable [letter] → (c == byte) = true →
      ∃ letter, escapeByte c = [92, letter] ∧ Json.escapes letter = some c ∧
        Printable [letter] := by
    intro byte letter hbyte hletter hprint hc
    obtain rfl := eq_of_beq hc
    exact ⟨letter, hbyte, hletter, hprint⟩
  by_cases hquote : (c == 34) = true
  · exact Or.inl (named 34 34 (by decide) (by decide) (by decide) hquote)
  by_cases hslash : (c == 92) = true
  · exact Or.inl (named 92 92 (by decide) (by decide) (by decide) hslash)
  by_cases hline : (c == 10) = true
  · exact Or.inl (named 10 110 (by decide) (by decide) (by decide) hline)
  by_cases hreturn : (c == 13) = true
  · exact Or.inl (named 13 114 (by decide) (by decide) (by decide) hreturn)
  by_cases htab : (c == 9) = true
  · exact Or.inl (named 9 116 (by decide) (by decide) (by decide) htab)
  right
  rw [escapeByte, if_neg hquote, if_neg hslash, if_neg hline, if_neg hreturn, if_neg htab]
  by_cases hplain : (c < 0x20 || 0x7F ≤ c) = true
  · exact Or.inl (if_pos hplain)
  · rw [if_neg hplain]
    simp only [Bool.or_eq_true, decide_eq_true_eq, not_or, UInt8.not_lt, UInt8.not_le] at hplain
    exact Or.inr ⟨rfl, hplain.1, hplain.2, by simpa using hquote, by simpa using hslash⟩

theorem chars_escapeByte (c : UInt8) {value text : Bytes} (h : Json.Chars value text) :
    Json.Chars (c :: value) (escapeByte c ++ text) := by
  obtain ⟨letter, heq, hletter, -⟩ | heq | ⟨heq, hlow, hhigh, hquote, hslash⟩ := escapeByte_cases c
  · rw [heq]
    exact .escape hletter h
  · obtain ⟨hhigh, hlow, hc, -⟩ := hexDigit_halves c
    have hchars := Json.Chars.unicode hhigh hlow h
    rw [hc] at hchars
    rw [heq]
    exact hchars
  · rw [heq]
    exact .plain hlow (UInt8.lt_trans hhigh (by decide)) hquote hslash h

theorem printable_escapeByte (c : UInt8) : Printable (escapeByte c) := by
  obtain ⟨letter, heq, -, hletter⟩ | heq | ⟨heq, hlow, hhigh, -⟩ := escapeByte_cases c
  · rw [heq]
    exact printable_cons.2 ⟨by decide, hletter⟩
  · obtain ⟨-, -, -, hprint⟩ := hexDigit_halves c
    rw [heq]
    have hhead : Printable [92, 117, 48, 48] := by decide
    exact printable_append.2 ⟨hhead, hprint⟩
  · rw [heq]
    have hlast : c ≤ 0x7E := by
      rw [UInt8.lt_iff_toNat_lt] at hhigh
      rw [UInt8.le_iff_toNat_le]
      exact Nat.le_of_lt_succ hhigh
    exact printable_cons.2 ⟨⟨hlow, hlast⟩, printable_nil⟩

theorem chars_flatMap (value : Bytes) : Json.Chars value (value.flatMap escapeByte) := by
  induction value with
  | nil => exact .nil
  | cons c rest ih => exact chars_escapeByte c ih

theorem printable_escaped (value : Bytes) : Printable (escaped value) := by
  rw [escaped, printable_append, printable_append]
  refine ⟨⟨by decide, ?_⟩, by decide⟩
  intro c hc
  obtain ⟨d, -, hd⟩ := List.mem_flatMap.1 hc
  exact printable_escapeByte d c hd

theorem escaped_eq (value : Bytes) : escaped value = 34 :: (value.flatMap escapeByte ++ [34]) := rfl

mutual

/-- The compact rendering is a document that stands for the value. -/
theorem renders_dump : (value : JsonValue) → Json.Renders (meaning value) (dump value)
  | null => .null
  | bool true => .yes
  | bool false => .no
  | unsigned value => .number (.natural (digits_decimalDigits value.toNat))
  | signed value => by
    rw [meaning, dump]
    have hdigits := digits_decimalDigits value.toInt.natAbs
    by_cases hneg : value < 0
    · have hint : value.toInt = -value.toInt.natAbs := by
        have hlt : value.toInt < 0 := Int64.lt_iff_toInt_lt.1 hneg
        omega
      rw [if_pos hneg, hint, Int.natAbs_neg, Int.natAbs_natCast]
      exact .number (.negative hdigits)
    · have hint : value.toInt = value.toInt.natAbs := by
        have hle : ¬ value.toInt < 0 := fun hlt => hneg (Int64.lt_iff_toInt_lt.2 hlt)
        omega
      rw [if_neg hneg, hint, Int.natAbs_natCast]
      exact .number (.natural hdigits)
  | text value => .text (chars_flatMap value)
  | array elements => .array (elements_dump elements)
  | object members => .object (members_dump members)

theorem elements_dump : (elements : List JsonValue) →
    Json.Elements (meanings elements) (dumpElements elements)
  | [] => .nil
  | [element] => .one (renders_dump element)
  | element :: next :: rest => by
    have h := Json.Elements.more (renders_dump element) (elements_dump (next :: rest))
    simpa [meanings, dumpElements] using h

theorem members_dump : (members : List (Bytes × JsonValue)) →
    Json.Members (memberMeanings members) (dumpMembers members)
  | [] => .nil
  | [(key, value)] => by
    have h := Json.Members.one (chars_flatMap key) (renders_dump value)
    simpa [memberMeanings, dumpMembers, escaped_eq] using h
  | (key, value) :: (next, value') :: rest => by
    have h := Json.Members.more (chars_flatMap key) (renders_dump value)
      (members_dump ((next, value') :: rest))
    simpa [memberMeanings, dumpMembers, escaped_eq] using h

end

mutual

theorem printable_dump : (value : JsonValue) → Printable (dump value)
  | null => by decide
  | bool true => by decide
  | bool false => by decide
  | unsigned value => printable_decimalDigits value.toNat
  | signed value => by
    rw [dump]
    have hdigits := printable_decimalDigits value.toInt.natAbs
    by_cases hneg : value < 0
    · rw [if_pos hneg]
      exact printable_cons.2 ⟨by decide, hdigits⟩
    · rw [if_neg hneg]
      exact hdigits
  | text value => printable_escaped value
  | array elements => by
    rw [dump]
    simp only [printable_append, printable_dumpElements elements]
    decide
  | object members => by
    rw [dump]
    simp only [printable_append, printable_dumpMembers members]
    decide

theorem printable_dumpElements : (elements : List JsonValue) → Printable (dumpElements elements)
  | [] => printable_nil
  | [element] => printable_dump element
  | element :: next :: rest => by
    rw [dumpElements]
    · simp only [printable_append, printable_dump element, printable_dumpElements (next :: rest)]
      decide
    · simp

theorem printable_dumpMembers : (members : List (Bytes × JsonValue)) →
    Printable (dumpMembers members)
  | [] => printable_nil
  | [(key, value)] => by
    rw [dumpMembers]
    simp only [printable_append, printable_escaped, printable_dump value]
    decide
  | (key, value) :: (next, value') :: rest => by
    rw [dumpMembers]
    · simp only [printable_append, printable_escaped, printable_dump value,
        printable_dumpMembers ((next, value') :: rest)]
      decide
    · simp

end

open Json (withoutSpace)

@[simp] theorem withoutSpace_newLine (indent : Nat) (rest : Bytes) :
    withoutSpace .outside (newLine indent ++ rest) = withoutSpace .outside rest := by
  refine Json.withoutSpace_spaces rest fun c hc => ?_
  obtain rfl | hc := List.mem_cons.1 hc
  · decide
  · rw [List.eq_of_mem_replicate hc]
    decide

@[simp] theorem withoutSpace_escaped (value rest : Bytes) :
    withoutSpace .outside (escaped value ++ rest) =
      escaped value ++ withoutSpace .outside rest := by
  have hquote : ¬ Json.IsSpace 34 := by decide
  rw [escaped_eq, List.cons_append, withoutSpace, if_neg hquote, if_pos rfl, List.append_assoc,
    List.singleton_append, (chars_flatMap value).withoutSpace_append]
  simp

@[simp] theorem withoutSpace_decimalDigits (n : Nat) (rest : Bytes) :
    withoutSpace .outside (decimalDigits n ++ rest) =
      decimalDigits n ++ withoutSpace .outside rest := by
  refine Json.withoutSpace_tokens rest fun c hc => ?_
  have hdigit := (digits_decimalDigits n).digits c hc
  refine ⟨?_, ?_⟩
  · rintro (rfl | rfl | rfl | rfl) <;> exact absurd hdigit (by decide)
  · rintro rfl
    exact absurd hdigit (by decide)

/-- What holds of the bytes of a text is decided along the text, not over all bytes. -/
local instance (priority := high) (text : Bytes) (p : UInt8 → Prop) [DecidablePred p] :
    Decidable (∀ c ∈ text, p c) := List.decidableBAll p text

mutual

/-- Without its space, the rendering over several lines is the compact one. -/
theorem withoutSpace_pretty : (value : JsonValue) → (indent : Nat) → (rest : Bytes) →
    withoutSpace .outside (dumpPrettyAt indent value ++ rest) =
      dump value ++ withoutSpace .outside rest
  | null, indent, rest => by
    rw [dumpPrettyAt, dump]
    exact Json.withoutSpace_tokens rest (by decide)
  | bool value, indent, rest => by
    rw [dumpPrettyAt, dump]
    refine Json.withoutSpace_tokens rest ?_
    cases value <;> decide
  | unsigned value, _, rest => withoutSpace_decimalDigits value.toNat rest
  | signed value, indent, rest => by
    rw [dumpPrettyAt, dump]
    by_cases hneg : value < 0
    · rw [if_pos hneg, List.cons_append, Json.withoutSpace_token _ (by decide),
        withoutSpace_decimalDigits]
      rfl
    · rw [if_neg hneg]
      exact withoutSpace_decimalDigits value.toInt.natAbs rest
  | text value, _, rest => withoutSpace_escaped value rest
  | array elements, indent, rest => by
    rw [dumpPrettyAt, dump]
    cases elements with
    | nil =>
      have hbrackets : ∀ c ∈ ([91, 93] : Bytes), ¬ Json.IsSpace c ∧ c ≠ 34 := by decide
      exact Json.withoutSpace_tokens rest hbrackets
    | cons element more =>
      simp (disch := decide) [withoutSpace_prettyElements (element :: more) (indent + 2),
        Json.withoutSpace_token]
  | object members, indent, rest => by
    rw [dumpPrettyAt, dump]
    cases members with
    | nil =>
      have hbraces : ∀ c ∈ ([123, 125] : Bytes), ¬ Json.IsSpace c ∧ c ≠ 34 := by decide
      exact Json.withoutSpace_tokens rest hbraces
    | cons member more =>
      simp (disch := decide) [withoutSpace_prettyMembers (member :: more) (indent + 2),
        Json.withoutSpace_token]

theorem withoutSpace_prettyElements : (elements : List JsonValue) → (indent : Nat) →
    (rest : Bytes) →
    withoutSpace .outside (prettyElements indent elements ++ rest) =
      dumpElements elements ++ withoutSpace .outside rest
  | [], _, _ => rfl
  | [element], indent, rest => by
    rw [prettyElements, dumpElements, List.append_assoc, withoutSpace_newLine,
      withoutSpace_pretty element]
  | element :: next :: more, indent, rest => by
    have hmore := withoutSpace_prettyElements (next :: more) indent rest
    rw [prettyElements, dumpElements]
    · simp (disch := decide) [withoutSpace_pretty element indent, hmore, Json.withoutSpace_token]
    · simp
    · simp

theorem withoutSpace_prettyMembers : (members : List (Bytes × JsonValue)) → (indent : Nat) →
    (rest : Bytes) →
    withoutSpace .outside (prettyMembers indent members ++ rest) =
      dumpMembers members ++ withoutSpace .outside rest
  | [], _, _ => rfl
  | [(key, value)], indent, rest => by
    rw [prettyMembers, dumpMembers]
    simp (disch := decide) [withoutSpace_pretty value indent, Json.withoutSpace_token,
      Json.withoutSpace_space]
  | (key, value) :: next :: more, indent, rest => by
    have hmore := withoutSpace_prettyMembers (next :: more) indent rest
    rw [prettyMembers, dumpMembers]
    · simp (disch := decide) [withoutSpace_pretty value indent, hmore, Json.withoutSpace_token,
        Json.withoutSpace_space]
    · simp
    · simp

end

/-- Equal texts come from values that say the same; every text is a printable document for its
value; the text over several lines has the same tokens. -/
theorem dump_faithful :
    (∀ value other : JsonValue, dump value = dump other → meaning value = meaning other) ∧
    (∀ value : JsonValue, Json.Renders (meaning value) (dump value) ∧ Printable (dump value)) ∧
    ∀ value : JsonValue, withoutSpace .outside (dumpPretty value) = dump value := by
  refine ⟨?_, ?_, ?_⟩
  · intro value other heq
    exact (renders_dump value).value_unique (heq ▸ renders_dump other)
  · intro value
    exact ⟨renders_dump value, printable_dump value⟩
  · intro value
    have h := withoutSpace_pretty value 0 []
    rwa [List.append_nil, withoutSpace, List.append_nil] at h

end JsonValue

end OffloadFabric
